import Handbook.Json.Value

/-!
Reading JSON. A reader takes characters and gives a value with the characters after it, or `none`
when the text is not JSON. Numbers keep their written form, so no range is checked here.
-/

namespace Handbook.Json

/-- The four characters that may stand between the parts of a JSON text. -/
def isBlank (char : Char) : Bool := char == ' ' || char == '\t' || char == '\n' || char == '\r'

def skipBlank (text : List Char) : List Char := text.dropWhile isBlank

/-- Reads one digit or more. -/
def digits? (text : List Char) : Option (List Char × List Char) :=
  let digits := text.takeWhile Char.isDigit
  if digits.isEmpty then none else some (digits, text.dropWhile Char.isDigit)

/-- Reads the whole part of a number: a zero, or digits that do not start with one. -/
def whole? : List Char → Option (Nat × List Char)
  | '0' :: rest => some (0, rest)
  | text => (digits? text).map fun (digits, rest) => (Nat.ofDigitChars 10 digits 0, rest)

/-- Reads the fraction of a number, if it has one. -/
def fraction? : List Char → Option (List Char × List Char)
  | '.' :: rest => digits? rest
  | text => some ([], text)

def exponent? : List Char → Option (List Char × List Char)
  | letter :: rest =>
    if letter = 'e' ∨ letter = 'E' then
      match rest with
      | '+' :: later => (digits? later).map fun (digits, after) => ('+' :: digits, after)
      | '-' :: later => (digits? later).map fun (digits, after) => ('-' :: digits, after)
      | later => digits? later
    else some ([], letter :: rest)
  | [] => some ([], [])

def numeral? (text : List Char) : Option (Numeral × List Char) := do
  let (negative, unsigned) :=
    match text with
    | '-' :: rest => (true, rest)
    | rest => (false, rest)
  let (whole, afterWhole) ← whole? unsigned
  let (fraction, afterFraction) ← fraction? afterWhole
  let (exponent, rest) ← exponent? afterFraction
  return (⟨negative, whole, fraction, exponent⟩, rest)

def hexDigit? (char : Char) : Option Nat :=
  if char.isDigit then some (char.toNat - '0'.toNat)
  else if 'a' ≤ char ∧ char ≤ 'f' then some (char.toNat - 'a'.toNat + 10)
  else if 'A' ≤ char ∧ char ≤ 'F' then some (char.toNat - 'A'.toNat + 10)
  else none

def hexFour? (first second third fourth : Char) : Option Nat := do
  return (((← hexDigit? first) * 16 + (← hexDigit? second)) * 16 + (← hexDigit? third)) * 16 +
    (← hexDigit? fourth)

/-- The code that a backslash and this character stand for. -/
def escaped? : Char → Option Nat
  | '"' => some 0x22
  | '\\' => some 0x5C
  | '/' => some 0x2F
  | 'b' => some 8
  | 'f' => some 12
  | 'n' => some 10
  | 'r' => some 13
  | 't' => some 9
  | _ => none

/-- Reads the codes of a string after its opening quote, up to its closing quote. Control characters
have to be escaped. -/
def codes? : List Char → Option (List Nat × List Char)
  | [] => none
  | '"' :: rest => some ([], rest)
  | '\\' :: 'u' :: first :: second :: third :: fourth :: rest => do
    let code ← hexFour? first second third fourth
    let (codes, after) ← codes? rest
    return (code :: codes, after)
  | '\\' :: char :: rest => do
    let code ← escaped? char
    let (codes, after) ← codes? rest
    return (code :: codes, after)
  | char :: rest =>
    if char.toNat < 32 then none
    else do
      let (codes, after) ← codes? rest
      return (char.toNat :: codes, after)

def isLead (code : Nat) : Bool := 0xD800 ≤ code && code ≤ 0xDBFF

def isTrail (code : Nat) : Bool := 0xDC00 ≤ code && code ≤ 0xDFFF

/-- The characters of codes: a leading and a trailing surrogate together make one character, and
either of them alone makes none. -/
def characters? : List Nat → Option (List Char)
  | [] => some []
  | code :: rest =>
    if isLead code then
      match rest with
      | trail :: later =>
        if isTrail trail then
          (characters? later).map
            (Char.ofNat (0x10000 + (code - 0xD800) * 1024 + (trail - 0xDC00)) :: ·)
        else none
      | [] => none
    else if isTrail code then none
    else (characters? rest).map (Char.ofNat code :: ·)

/-- Reads a string after its opening quote. -/
def text? (text : List Char) : Option (JsonText × List Char) := do
  let (codes, rest) ← codes? text
  return ((characters? codes).map String.ofList, rest)

mutual

/-- Reads a value that starts at the first character. `fuel` bounds the steps; twice the length of
the text suffices. -/
def value? : Nat → List Char → Option (Json × List Char)
  | 0, _ => none
  | fuel + 1, text =>
    match text with
    | 'n' :: 'u' :: 'l' :: 'l' :: rest => some (.null, rest)
    | 't' :: 'r' :: 'u' :: 'e' :: rest => some (.bool true, rest)
    | 'f' :: 'a' :: 'l' :: 's' :: 'e' :: rest => some (.bool false, rest)
    | '"' :: rest => (text? rest).map fun (text, after) => (.string text, after)
    | '[' :: rest =>
      match skipBlank rest with
      | ']' :: after => some (.array [], after)
      | inner => (items? fuel inner).map fun (items, after) => (.array items, after)
    | '\x7b' :: rest =>
      match skipBlank rest with
      | '\x7d' :: after => some (.object [], after)
      | inner => (members? fuel inner).map fun (members, after) => (.object members, after)
    | text => (numeral? text).map fun (numeral, after) => (.number numeral, after)

/-- Reads the items of an array up to its closing bracket. -/
def items? : Nat → List Char → Option (List Json × List Char)
  | 0, _ => none
  | fuel + 1, text => do
    let (item, rest) ← value? fuel text
    match skipBlank rest with
    | ',' :: later =>
      let (items, after) ← items? fuel (skipBlank later)
      return (item :: items, after)
    | ']' :: after => return ([item], after)
    | _ => none

/-- Reads the members of an object up to its closing brace. -/
def members? : Nat → List Char → Option (List (JsonText × Json) × List Char)
  | 0, _ => none
  | fuel + 1, text =>
    match text with
    | '"' :: afterQuote => do
      let (name, rest) ← text? afterQuote
      match skipBlank rest with
      | ':' :: afterColon =>
        let (value, rest) ← value? fuel (skipBlank afterColon)
        match skipBlank rest with
        | ',' :: later =>
          let (members, after) ← members? fuel (skipBlank later)
          return ((name, value) :: members, after)
        | '\x7d' :: after => return ([(name, value)], after)
        | _ => none
      | _ => none
    | _ => none

end

/-- Reads a text that is one JSON value between blanks. -/
def read? (text : String) : Option Json := do
  let characters := skipBlank text.toList
  let (value, rest) ← value? (2 * characters.length + 2) characters
  if (skipBlank rest).isEmpty then some value else none

end Handbook.Json
