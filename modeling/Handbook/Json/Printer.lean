import Handbook.Json.Value

namespace Handbook

def Numeral.print (numeral : Numeral) : List Char :=
  (if numeral.negative then ['-'] else []) ++ Nat.toDigits 10 numeral.whole ++
    (if numeral.fraction.isEmpty then [] else '.' :: numeral.fraction) ++
    (if numeral.exponent.isEmpty then [] else 'e' :: numeral.exponent)

namespace Json

/-- Four hexadecimal digits in lower case. -/
def hexFour (code : Nat) : List Char :=
  [Nat.digitChar (code / 4096 % 16), Nat.digitChar (code / 256 % 16),
    Nat.digitChar (code / 16 % 16), Nat.digitChar (code % 16)]

/-- The written form of a character inside a string: quotes, backslashes and control characters are
escaped, everything else stands for itself. -/
def escape (char : Char) : List Char :=
  if char = '"' then ['\\', '"']
  else if char = '\\' then ['\\', '\\']
  else if char.toNat < 32 then
    match char.toNat with
    | 8 => ['\\', 'b']
    | 9 => ['\\', 't']
    | 10 => ['\\', 'n']
    | 12 => ['\\', 'f']
    | 13 => ['\\', 'r']
    | code => '\\' :: 'u' :: hexFour code
  else [char]

/-- The written form of a string. One without a text is written as a lone surrogate. -/
def printText : JsonText → List Char
  | some text => '"' :: text.toList.flatMap escape ++ ['"']
  | none => '"' :: '\\' :: 'u' :: hexFour 0xD800 ++ ['"']

/-- The written form of values other than arrays and objects. -/
def printScalar : Json → List Char
  | .null => ['n', 'u', 'l', 'l']
  | .bool true => ['t', 'r', 'u', 'e']
  | .bool false => ['f', 'a', 'l', 's', 'e']
  | .number numeral => numeral.print
  | .string text => printText text
  | .array _ => []
  | .object _ => []

mutual

def compact : Json → List Char
  | .array items => '[' :: compactItems items ++ [']']
  | .object members => '\x7b' :: compactMembers members ++ ['\x7d']
  | scalar => printScalar scalar

def compactItems : List Json → List Char
  | [] => []
  | [item] => compact item
  | item :: rest => compact item ++ ',' :: compactItems rest

def compactMembers : List (JsonText × Json) → List Char
  | [] => []
  | [(name, value)] => printText name ++ ':' :: compact value
  | (name, value) :: rest => printText name ++ ':' :: compact value ++ ',' :: compactMembers rest

end

/-- A new line indented to a level. -/
def lineBreak (level : Nat) : List Char := '\n' :: List.replicate (2 * level) ' '

mutual

/-- The written form with one item or member on each line; `level` is the level of the line on which
the value starts. -/
def indented (level : Nat) : Json → List Char
  | .array [] => ['[', ']']
  | .array items => '[' :: indentedItems (level + 1) items ++ lineBreak level ++ [']']
  | .object [] => ['\x7b', '\x7d']
  | .object members =>
    '\x7b' :: indentedMembers (level + 1) members ++ lineBreak level ++ ['\x7d']
  | scalar => printScalar scalar

def indentedItems (level : Nat) : List Json → List Char
  | [] => []
  | [item] => lineBreak level ++ indented level item
  | item :: rest => lineBreak level ++ indented level item ++ ',' :: indentedItems level rest

def indentedMembers (level : Nat) : List (JsonText × Json) → List Char
  | [] => []
  | [(name, value)] => lineBreak level ++ printText name ++ ':' :: ' ' :: indented level value
  | (name, value) :: rest =>
    lineBreak level ++ printText name ++ ':' :: ' ' :: indented level value ++
      ',' :: indentedMembers level rest

end

def toCompact (value : Json) : String := String.ofList value.compact

def toIndented (value : Json) : String := String.ofList (value.indented 0)

end Json

end Handbook
