import Handbook.Binary32.Basic
import Handbook.Json.Value

namespace Handbook.Binary32

attribute [local instance] natPower

/-- The number nearest to `digits` times a power of ten. -/
def ofDecimal (negative : Bool) (digits : Nat) (exponent : Int) : Binary32 :=
  if 0 ≤ exponent then ofQuotient negative (digits * 10 ^ exponent.toNat * oneUnits) 1
  else ofQuotient negative (digits * oneUnits) (10 ^ (-exponent).toNat)

/-- Whether digits times a power of ten read back as a count of units. -/
def readsBack (units digits : Nat) (exponent : Int) : Bool :=
  match ofDecimal false digits exponent with
  | .finite _ found _ => found == units
  | _ => false

/-- The neighbours of a count of units among the multiples of a power of ten, the nearer one first;
of two equally near ones the even one comes first. -/
def neighbours (units : Nat) (exponent : Int) : List Nat :=
  let dividend := if 0 ≤ exponent then units else units * 10 ^ (-exponent).toNat
  let divisor := if 0 ≤ exponent then 10 ^ exponent.toNat * oneUnits else oneUnits
  let below := dividend / divisor
  if nearestEven dividend divisor = below then [below, below + 1] else [below + 1, below]

/-- The nearest multiple of a power of ten that reads back as a count of units. -/
def decimalAt? (units : Nat) (exponent : Int) : Option (Nat × Int) :=
  ((neighbours units exponent).find? fun digits => readsBack units digits exponent).map
    fun digits => (digits, exponent)

/-- The powers of ten from the largest number down to the smallest step. -/
def powers : List Int := (List.range 96).map fun step : Nat => 39 - (step : Int)

/-- The shortest decimal form of a count of units: digits and a power of ten. -/
def shortest (units : Nat) : Nat × Int :=
  if units = 0 then (0, 0) else (powers.findSome? (decimalAt? units)).getD (0, 0)

/-- The least exponent that is written out with zeros after the point. -/
def leastPoint : Int := -5

/-- The number of digits before the point up to which no exponent is written. -/
def mostDigits : Int := 13

/-- The numeral of digits times a power of ten. It always has a fraction or an exponent. -/
def numeralOf (negative : Bool) (digits : Nat) (exponent : Int) : Numeral :=
  let written := Nat.toDigits 10 digits
  let point : Int := written.length + exponent
  if 0 ≤ exponent ∧ point ≤ mostDigits then
    { negative := negative, whole := digits * 10 ^ exponent.toNat, fraction := ['0'] }
  else if 0 < point ∧ point ≤ mostDigits then
    { negative := negative
      whole := digits / 10 ^ (-exponent).toNat
      fraction := written.drop point.toNat }
  else if leastPoint ≤ point ∧ point ≤ 0 then
    { negative := negative
      whole := 0
      fraction := List.replicate (-point).toNat '0' ++ written }
  else
    let power := point - 1
    let sign := if power < 0 then ['-'] else []
    { negative := negative
      whole := digits / 10 ^ (written.length - 1)
      fraction := written.drop 1
      exponent := sign ++ Nat.toDigits 10 power.natAbs }

/-- The JSON form of a number: its shortest numeral, or null when it is not finite. -/
def toJson : Binary32 → Json
  | .finite negative units _ =>
    let (digits, exponent) := shortest units
    .number (numeralOf negative digits exponent)
  | _ => .null

/-- The whole number that a signed run of digits stands for. -/
def readExponent : List Char → Int
  | '-' :: digits => -(Nat.ofDigitChars 10 digits 0 : Nat)
  | '+' :: digits => (Nat.ofDigitChars 10 digits 0 : Nat)
  | digits => (Nat.ofDigitChars 10 digits 0 : Nat)

def ofNumeral (numeral : Numeral) : Binary32 :=
  ofDecimal numeral.negative (Nat.ofDigitChars 10 numeral.fraction numeral.whole)
    (readExponent numeral.exponent - numeral.fraction.length)

end Handbook.Binary32
