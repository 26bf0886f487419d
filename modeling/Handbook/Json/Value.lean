/-!
JSON values. Numbers keep the form in which they are written, objects keep every member in order,
and a string whose escapes leave half of a surrogate pair is a string without a text.
-/

namespace Handbook

/-- A number as it is written: sign, whole part, and the digits of its fraction and its exponent,
either of which may be missing. -/
structure Numeral where
  negative : Bool := false
  whole : Nat
  fraction : List Char := []
  /-- The exponent with its sign, without the letter before it. -/
  exponent : List Char := []
deriving DecidableEq

namespace Numeral

def ofInt (value : Int) : Numeral where
  negative := decide (value < 0)
  whole := value.natAbs

/-- The whole number of a numeral without fraction and exponent. A negative zero is none. -/
def toInt? (numeral : Numeral) : Option Int :=
  if numeral.fraction ≠ [] ∨ numeral.exponent ≠ [] then none
  else if numeral.negative then
    if numeral.whole = 0 then none else some (-numeral.whole)
  else some numeral.whole

theorem toInt?_ofInt (value : Int) : (ofInt value).toInt? = some value := by
  rcases Int.lt_or_le value 0 with negative | natural
  · have nonzero : value.natAbs ≠ 0 := by omega
    have back : -(value.natAbs : Int) = value := by omega
    simp only [ofInt, toInt?, negative, nonzero, back, decide_true, ne_eq, not_true_eq_false,
      or_self, if_false, if_true]
  · have positive : ¬ value < 0 := by omega
    have back : (value.natAbs : Int) = value := by omega
    simp only [ofInt, toInt?, positive, back, decide_false, ne_eq, not_true_eq_false, or_self,
      if_false, Bool.false_eq_true]

end Numeral

/-- The text of a JSON string, or `none` when its escapes leave half of a surrogate pair. -/
abbrev JsonText := Option String

inductive Json where
  | null
  | bool (value : Bool)
  | number (numeral : Numeral)
  | string (text : JsonText)
  | array (items : List Json)
  | object (members : List (JsonText × Json))
deriving Inhabited

namespace Json

def ofInt (value : Int) : Json := .number (Numeral.ofInt value)

def ofText (text : String) : Json := .string (some text)

def ofMembers (members : List (String × Json)) : Json :=
  .object (members.map fun member => (some member.1, member.2))

def toInt? : Json → Option Int
  | .number numeral => numeral.toInt?
  | _ => none

def toBool? : Json → Option Bool
  | .bool value => some value
  | _ => none

def toText? : Json → Option String
  | .string text => text
  | _ => none

end Json

end Handbook
