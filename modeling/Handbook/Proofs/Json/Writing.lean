import Handbook.Json.Printer
import Handbook.Json.Reader

namespace Handbook

namespace Numeral

structure IsDigits (text : List Char) : Prop where
  nonempty : text ≠ []
  digits : ∀ char ∈ text, char.isDigit = true

/-- The ways to write a fraction: a point before its digits, or nothing when there are none. -/
inductive WritesFraction : List Char → List Char → Prop
  | missing : WritesFraction [] []
  | pointed {digits : List Char} (areDigits : IsDigits digits) :
    WritesFraction digits ('.' :: digits)

/-- The ways to write an exponent: a letter of either case before its sign and its digits, or
nothing when there are none. A plus sign may be left out. -/
inductive WritesExponent : List Char → List Char → Prop
  | missing : WritesExponent [] []
  | lettered {letter : Char} {sign digits : List Char} (isLetter : letter = 'e' ∨ letter = 'E')
    (isSign : sign = [] ∨ sign = ['+'] ∨ sign = ['-']) (areDigits : IsDigits digits) :
    WritesExponent (sign ++ digits) (letter :: (sign ++ digits))

/-- The text writes the numeral. -/
def Written (numeral : Numeral) (text : List Char) : Prop :=
  ∃ fraction exponent, WritesFraction numeral.fraction fraction ∧
    WritesExponent numeral.exponent exponent ∧
    text = (if numeral.negative then ['-'] else []) ++ Nat.toDigits 10 numeral.whole ++ fraction ++
      exponent

/-- The fraction and the exponent of the numeral are digits, those of the exponent behind a sign or
without one. -/
structure WellFormed (numeral : Numeral) : Prop where
  fraction : numeral.fraction = [] ∨ IsDigits numeral.fraction
  exponent : numeral.exponent = [] ∨ ∃ sign digits, numeral.exponent = sign ++ digits ∧
    (sign = [] ∨ sign = ['+'] ∨ sign = ['-']) ∧ IsDigits digits

theorem WellFormed.ofInt (value : Int) : (ofInt value).WellFormed := ⟨.inl rfl, .inl rfl⟩

theorem WellFormed.written_print {numeral : Numeral} (wellFormed : numeral.WellFormed) :
    numeral.Written numeral.print := by
  refine ⟨_, _, ?_, ?_, rfl⟩
  · rcases wellFormed.fraction with none | areDigits
    · rw [none]
      exact .missing
    · rw [if_neg (by simpa using areDigits.nonempty)]
      exact .pointed areDigits
  · rcases wellFormed.exponent with none | ⟨sign, digits, isExponent, isSign, areDigits⟩
    · rw [none]
      exact .missing
    · rw [if_neg (by simpa [isExponent] using fun _ => areDigits.nonempty), isExponent]
      exact .lettered (.inl rfl) isSign areDigits

end Numeral

namespace Json

/-- Only characters that may stand between the parts of a text. -/
def Blanks (text : List Char) : Prop := ∀ char ∈ text, isBlank char = true

theorem blanks_nil : Blanks [] := List.forall_mem_nil _

/-- The ways to write a character of a string: itself unless it is a quote, a backslash or a control
character, a letter that stands for it behind a backslash, its code in hexadecimal digits, or the
codes of its two surrogates. -/
inductive WritesChar : Char → List Char → Prop
  | plain {char : Char} (printed : 32 ≤ char.toNat) (noQuote : char ≠ '"')
    (noBackslash : char ≠ '\\') : WritesChar char [char]
  | short {char letter : Char} (standsFor : escaped? letter = some char.toNat) :
    WritesChar char ['\\', letter]
  | code {char first second third fourth : Char}
    (isCode : hexFour? first second third fourth = some char.toNat) :
    WritesChar char ['\\', 'u', first, second, third, fourth]
  | pair {char first second third fourth fifth sixth seventh eighth : Char} {lead trail : Nat}
    (isLeadCode : hexFour? first second third fourth = some lead) (leads : isLead lead = true)
    (isTrailCode : hexFour? fifth sixth seventh eighth = some trail) (trails : isTrail trail = true)
    (isPair : char.toNat = 0x10000 + (lead - 0xD800) * 1024 + (trail - 0xDC00)) :
    WritesChar char
      ['\\', 'u', first, second, third, fourth, '\\', 'u', fifth, sixth, seventh, eighth]

/-- The ways to write the characters of a string, one after the other. -/
inductive WritesChars : List Char → List Char → Prop
  | nil : WritesChars [] []
  | cons {char : Char} {rest piece more : List Char} (first : WritesChar char piece)
    (later : WritesChars rest more) : WritesChars (char :: rest) (piece ++ more)

/-- What a piece of JSON text can stand for. -/
inductive Part where
  | value (value : Json)
  /-- The items of an array, of which there is one at least. -/
  | items (items : List Json)
  | member (name : String) (value : Json)
  /-- The members of an object, of which there is one at least. -/
  | members (members : List (JsonText × Json))

/-- The ways to write a part of a JSON text. -/
inductive Written : Part → List Char → Prop
  | null : Written (.value .null) ['n', 'u', 'l', 'l']
  | true : Written (.value (.bool true)) ['t', 'r', 'u', 'e']
  | false : Written (.value (.bool false)) ['f', 'a', 'l', 's', 'e']
  | number {numeral : Numeral} {text : List Char} (numeralWritten : numeral.Written text) :
    Written (.value (.number numeral)) text
  | string {text : String} {inside : List Char} (charsWritten : WritesChars text.toList inside) :
    Written (.value (.string (some text))) ('"' :: (inside ++ ['"']))
  | noItems {between : List Char} (blank : Blanks between) :
    Written (.value (.array [])) ('[' :: (between ++ [']']))
  | array {items : List Json} {before text after : List Char} (blankBefore : Blanks before)
    (itemsWritten : Written (.items items) text) (blankAfter : Blanks after) :
    Written (.value (.array items)) ('[' :: (before ++ (text ++ (after ++ [']']))))
  | noMembers {between : List Char} (blank : Blanks between) :
    Written (.value (.object [])) ('\x7b' :: (between ++ ['\x7d']))
  | object {members : List (JsonText × Json)} {before text after : List Char}
    (blankBefore : Blanks before) (membersWritten : Written (.members members) text)
    (blankAfter : Blanks after) :
    Written (.value (.object members)) ('\x7b' :: (before ++ (text ++ (after ++ ['\x7d']))))
  | lastItem {item : Json} {text : List Char} (itemWritten : Written (.value item) text) :
    Written (.items [item]) text
  | earlierItem {item : Json} {rest : List Json} {text after before more : List Char}
    (itemWritten : Written (.value item) text) (blankAfter : Blanks after)
    (blankBefore : Blanks before) (restWritten : Written (.items rest) more) :
    Written (.items (item :: rest)) (text ++ (after ++ ',' :: (before ++ more)))
  | member {name : String} {value : Json} {inside after before text : List Char}
    (nameWritten : WritesChars name.toList inside) (blankAfter : Blanks after)
    (blankBefore : Blanks before) (valueWritten : Written (.value value) text) :
    Written (.member name value) ('"' :: (inside ++ '"' :: (after ++ ':' :: (before ++ text))))
  | lastMember {name : String} {value : Json} {text : List Char}
    (memberWritten : Written (.member name value) text) :
    Written (.members [(some name, value)]) text
  | earlierMember {name : String} {value : Json} {rest : List (JsonText × Json)}
    {text after before more : List Char} (memberWritten : Written (.member name value) text)
    (blankAfter : Blanks after) (blankBefore : Blanks before)
    (restWritten : Written (.members rest) more) :
    Written (.members ((some name, value) :: rest)) (text ++ (after ++ ',' :: (before ++ more)))

/-- The text writes the value, with blanks around it or without. -/
def Writes (value : Json) (text : String) : Prop :=
  ∃ before inside after, Blanks before ∧ Written (.value value) inside ∧ Blanks after ∧
    text.toList = before ++ (inside ++ after)

/-- Every number is well formed and every string has a text. -/
inductive WellFormed : Json → Prop
  | null : WellFormed .null
  | bool (value : Bool) : WellFormed (.bool value)
  | number {numeral : Numeral} (wellFormed : numeral.WellFormed) : WellFormed (.number numeral)
  | string (text : String) : WellFormed (.string (some text))
  | array {items : List Json} (every : ∀ item ∈ items, WellFormed item) : WellFormed (.array items)
  | object {members : List (String × Json)} (every : ∀ member ∈ members, WellFormed member.2) :
    WellFormed (.ofMembers members)

private theorem hexFour?_hexFour {code : Nat} (control : code < 32) :
    hexFour? (Nat.digitChar (code / 4096 % 16)) (Nat.digitChar (code / 256 % 16))
      (Nat.digitChar (code / 16 % 16)) (Nat.digitChar (code % 16)) = some code := by
  revert code
  decide

private theorem writesChar_escape (char : Char) : WritesChar char (escape char) := by
  unfold escape
  split
  · subst char
    exact .short rfl
  · next noQuote =>
    split
    · subst char
      exact .short rfl
    · next noBackslash =>
      split
      · next control =>
        split
        case h_6 => exact .code (hexFour?_hexFour control)
        all_goals
          rename_i isCode
          exact .short (congrArg some isCode.symm)
      · next printed => exact .plain (Nat.le_of_not_lt printed) noQuote noBackslash

theorem writesChars_escape (chars : List Char) : WritesChars chars (chars.flatMap escape) := by
  induction chars with
  | nil => exact .nil
  | cons char rest ih => exact .cons (writesChar_escape char) ih

private theorem written_compactItems {items : List Json} (some : items ≠ [])
    (every : ∀ item ∈ items, Written (.value item) item.compact) :
    Written (.items items) (compactItems items) := by
  induction items with
  | nil => exact absurd rfl some
  | cons item rest ih =>
    obtain ⟨first, later⟩ := List.forall_mem_cons.mp every
    cases rest with
    | nil => exact .lastItem first
    | cons second others =>
      rw [compactItems]
      · exact .earlierItem first blanks_nil blanks_nil (ih (List.cons_ne_nil _ _) later)
      · exact List.cons_ne_nil _ _

private theorem written_compactMember {name : String} {value : Json}
    (valueWritten : Written (.value value) value.compact) :
    Written (.member name value) (printText (some name) ++ ':' :: value.compact) := by
  simpa [printText] using
    Written.member (writesChars_escape name.toList) blanks_nil blanks_nil valueWritten

private theorem written_compactMembers {members : List (String × Json)} (some : members ≠ [])
    (every : ∀ member ∈ members, Written (.value member.2) member.2.compact) :
    Written (.members (members.map fun member => (.some member.1, member.2)))
      (compactMembers (members.map fun member => (.some member.1, member.2))) := by
  induction members with
  | nil => exact absurd rfl some
  | cons member rest ih =>
    obtain ⟨first, later⟩ := List.forall_mem_cons.mp every
    cases rest with
    | nil => exact .lastMember (written_compactMember first)
    | cons second others =>
      rw [List.map_cons, compactMembers]
      · simpa using Written.earlierMember (written_compactMember first) blanks_nil blanks_nil
          (ih (List.cons_ne_nil _ _) later)
      · exact List.cons_ne_nil _ _

theorem WellFormed.written_compact {value : Json} (wellFormed : value.WellFormed) :
    Written (.value value) value.compact := by
  induction wellFormed with
  | null => exact .null
  | bool value => cases value with
    | true => exact .true
    | false => exact .false
  | number wellFormed => exact .number wellFormed.written_print
  | string text => exact .string (writesChars_escape text.toList)
  | @array items every ih =>
    cases items with
    | nil => exact .noItems blanks_nil
    | cons item rest =>
      exact .array blanks_nil (written_compactItems (List.cons_ne_nil _ _) ih) blanks_nil
  | @object members every ih =>
    cases members with
    | nil => exact .noMembers blanks_nil
    | cons member rest =>
      exact .object blanks_nil (written_compactMembers (List.cons_ne_nil _ _) ih) blanks_nil

theorem WellFormed.writes_toCompact {value : Json} (wellFormed : value.WellFormed) :
    value.Writes value.toCompact :=
  ⟨[], _, [], blanks_nil, wellFormed.written_compact, blanks_nil, by simp [toCompact]⟩

theorem blanks_lineBreak (level : Nat) : Blanks (lineBreak level) := by
  intro char member
  rcases List.mem_cons.mp member with rfl | space
  · rfl
  · rw [List.eq_of_mem_replicate space]
    rfl

private theorem written_indentedItems {items : List Json} {level : Nat} (some : items ≠ [])
    (every : ∀ item ∈ items, Written (.value item) (item.indented level)) :
    ∃ text, indentedItems level items = lineBreak level ++ text ∧ Written (.items items) text := by
  induction items with
  | nil => exact absurd rfl some
  | cons item rest ih =>
    obtain ⟨first, later⟩ := List.forall_mem_cons.mp every
    cases rest with
    | nil => exact ⟨_, rfl, .lastItem first⟩
    | cons second others =>
      obtain ⟨text, isText, written⟩ := ih (List.cons_ne_nil _ _) later
      refine ⟨_, ?_, .earlierItem first blanks_nil (blanks_lineBreak level) written⟩
      rw [indentedItems, isText]
      · simp
      · exact List.cons_ne_nil _ _

private theorem written_indentedMember (name : String) {value : Json} {level : Nat}
    (valueWritten : Written (.value value) (value.indented level)) :
    Written (.member name value)
      (printText (some name) ++ ':' :: ' ' :: value.indented level) := by
  have space : Blanks [' '] := List.forall_mem_singleton.mpr rfl
  simpa [printText] using
    Written.member (writesChars_escape name.toList) blanks_nil space valueWritten

private theorem written_indentedMembers {members : List (String × Json)} {level : Nat}
    (some : members ≠ [])
    (every : ∀ member ∈ members, Written (.value member.2) (member.2.indented level)) :
    ∃ text, indentedMembers level (members.map fun member => (.some member.1, member.2)) =
        lineBreak level ++ text ∧
      Written (.members (members.map fun member => (.some member.1, member.2))) text := by
  induction members with
  | nil => exact absurd rfl some
  | cons member rest ih =>
    obtain ⟨first, later⟩ := List.forall_mem_cons.mp every
    have memberWritten := written_indentedMember member.1 first
    cases rest with
    | nil => exact ⟨_, by simp [indentedMembers], .lastMember memberWritten⟩
    | cons second others =>
      obtain ⟨text, isText, written⟩ := ih (List.cons_ne_nil _ _) later
      refine ⟨_, ?_, .earlierMember memberWritten blanks_nil (blanks_lineBreak level) written⟩
      rw [List.map_cons, indentedMembers, isText]
      · simp
      · exact List.cons_ne_nil _ _

theorem WellFormed.written_indented {value : Json} (wellFormed : value.WellFormed) (level : Nat) :
    Written (.value value) (value.indented level) := by
  induction wellFormed generalizing level with
  | null => exact .null
  | bool value => cases value with
    | true => exact .true
    | false => exact .false
  | number wellFormed => exact .number wellFormed.written_print
  | string text => exact .string (writesChars_escape text.toList)
  | @array items every ih =>
    cases items with
    | nil => exact .noItems blanks_nil
    | cons item rest =>
      obtain ⟨text, isText, written⟩ :=
        written_indentedItems (List.cons_ne_nil item rest) fun item member => ih item member (level + 1)
      rw [indented, isText]
      · simpa using Written.array (blanks_lineBreak (level + 1)) written (blanks_lineBreak level)
      · exact List.cons_ne_nil _ _
  | @object members every ih =>
    cases members with
    | nil => exact .noMembers blanks_nil
    | cons member rest =>
      obtain ⟨text, isText, written⟩ :=
        written_indentedMembers (List.cons_ne_nil member rest) fun item member =>
          ih item member (level + 1)
      rw [ofMembers, indented, isText]
      · simpa using Written.object (blanks_lineBreak (level + 1)) written (blanks_lineBreak level)
      · exact List.cons_ne_nil _ _

theorem WellFormed.writes_toIndented {value : Json} (wellFormed : value.WellFormed) :
    value.Writes value.toIndented :=
  ⟨[], _, [], blanks_nil, wellFormed.written_indented 0, blanks_nil, by simp [toIndented]⟩

end Json

end Handbook
