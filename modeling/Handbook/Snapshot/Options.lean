import Handbook.Px

/-!
The options of a snapshot. Arguments are flags, which may stand anywhere, and plain arguments, whose
order tells the directory of pages, the width and the height.
-/

namespace Handbook.Snapshot

/-- A flag that takes the argument after it as its value. -/
inductive ValueFlag where
  | page
  | bookmark
  | settings
deriving DecidableEq

/-- An argument with a meaning of its own. -/
inductive Flag where
  | takes (flag : ValueFlag)
  | shaped
  | help
deriving DecidableEq

namespace Flag

def spellings : List (String × Flag) :=
  [("--page", .takes .page), ("--bookmark", .takes .bookmark), ("--config", .takes .settings),
    ("--shaped", .shaped), ("-h", .help), ("--help", .help)]

def ofText? (argument : String) : Option Flag := spellings.lookup argument

end Flag

inductive Misuse where
  /-- Help is asked for, or the directory is missing. -/
  | usage
  /-- The arguments end after a flag that takes a value. -/
  | missingValue (flag : ValueFlag)
  /-- A width or height is no positive pixel number. -/
  | badDimension (text : String)
  /-- A plain argument after the height. -/
  | extraArgument (text : String)
deriving DecidableEq

/-- What a snapshot is taken of. -/
structure Options where
  /-- The directory of the pages. -/
  directory : String
  width : Px := 1280
  height : Px := 800
  /-- The page to open in place of the main one. -/
  page : Option String := none
  /-- The pages to bookmark, in order. -/
  bookmarks : List String := []
  /-- The file of the settings. -/
  settings : Option String := none
  /-- Measures texts with a shaped font. -/
  shaped : Bool := false
deriving DecidableEq

/-- The arguments sorted into flags and plain ones. -/
structure Sorted where
  plain : List String := []
  page : Option String := none
  bookmarks : List String := []
  settings : Option String := none
  shaped : Bool := false
deriving DecidableEq

namespace Sorted

/-- Notes the value of a flag. A later page or settings file takes the place of an earlier one;
bookmarks add up. -/
def setValue (sorted : Sorted) (value : String) : ValueFlag → Sorted
  | .page => { sorted with page := some value }
  | .bookmark => { sorted with bookmarks := sorted.bookmarks ++ [value] }
  | .settings => { sorted with settings := some value }

/-- Sorts further arguments. The argument after a flag that takes a value is its value, whatever it
looks like. -/
def addAll (sorted : Sorted) : List String → Except Misuse Sorted
  | [] => .ok sorted
  | argument :: rest =>
    match Flag.ofText? argument with
    | none => addAll { sorted with plain := sorted.plain ++ [argument] } rest
    | some .help => .error .usage
    | some .shaped => addAll { sorted with shaped := true } rest
    | some (.takes flag) =>
      match rest with
      | [] => .error (.missingValue flag)
      | value :: later => addAll (sorted.setValue value flag) later

end Sorted

/-- The positive pixel number that a text is: digits, after a plus sign if there is one. -/
def dimension? (text : String) : Option Px :=
  let digits :=
    match text.toList with
    | '+' :: digits => digits
    | digits => digits
  if digits.isEmpty || !digits.all Char.isDigit then none
  else
    let value := Nat.ofDigitChars 10 digits 0
    if value = 0 then none else Px.fit? value

/-- Digits are read as their number, with or without a plus sign before them. -/
theorem dimension?_of_digits {text : String} {sign digits : List Char}
    (written : text.toList = sign ++ digits) (optional : sign = [] ∨ sign = ['+'])
    (some : digits ≠ []) (allDigits : ∀ digit ∈ digits, digit.isDigit)
    (positive : 0 < Nat.ofDigitChars 10 digits 0) :
    dimension? text = Px.fit? (Nat.ofDigitChars 10 digits 0) := by
  have number : ¬ (digits.isEmpty || !digits.all Char.isDigit) := by simpa [some] using allDigits
  unfold dimension?
  rw [written]
  rcases optional with rfl | rfl
  · rw [List.nil_append]
    split
    · cases allDigits '+' (List.mem_cons_self ..)
    · exact (if_neg number).trans (if_neg (Nat.ne_of_gt positive))
  · exact (if_neg number).trans (if_neg (Nat.ne_of_gt positive))

/-- The dimension that a plain argument gives, `standard` without one. -/
def dimensionOr (standard : Px) : Option String → Except Misuse Px
  | none => .ok standard
  | some text =>
    match dimension? text with
    | some pixels => .ok pixels
    | none => .error (.badDimension text)

namespace Options

/-- The options of sorted arguments: directory, width, height and nothing more. -/
def ofSorted (sorted : Sorted) : Except Misuse Options :=
  match sorted.plain with
  | [] => .error .usage
  | directory :: sizes => do
    let width ← dimensionOr 1280 sizes[0]?
    let height ← dimensionOr 800 sizes[1]?
    match sizes[2]? with
    | some extra => throw (.extraArgument extra)
    | none => return {
        directory, width, height
        page := sorted.page
        bookmarks := sorted.bookmarks
        settings := sorted.settings
        shaped := sorted.shaped }

def ofArguments (arguments : List String) : Except Misuse Options := do
  ofSorted (← Sorted.addAll {} arguments)

end Options

end Handbook.Snapshot
