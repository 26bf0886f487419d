import Handbook.Proofs.Json.Writing

namespace Handbook

namespace Json

variable {text rest before after : List Char}

private theorem run_append {test : Char → Bool} (inside : ∀ char ∈ text, test char = true)
    (boundary : ∀ char ∈ rest.head?, test char = false) :
    (text ++ rest).takeWhile test = text ∧ (text ++ rest).dropWhile test = rest := by
  rw [List.takeWhile_append_of_pos inside, List.dropWhile_append_of_pos inside]
  cases rest with
  | nil => simp
  | cons char more => simp [boundary char rfl]

/-- The text does not start with a blank. -/
def StartsSolid (text : List Char) : Prop := ∀ char ∈ text.head?, isBlank char = false

theorem skipBlank_append (blank : Blanks before) (solid : StartsSolid rest) :
    skipBlank (before ++ rest) = rest := (run_append blank solid).2

theorem startsSolid_cons (char : Char) (rest : List Char) (solid : isBlank char = false) :
    StartsSolid (char :: rest) := by
  intro first isFirst
  cases isFirst
  exact solid

/-- Nothing at the start of the text continues a number. -/
def EndsNumber (text : List Char) : Prop :=
  ∀ char ∈ text.head?, char.isDigit = false ∧ char ≠ '.' ∧ char ≠ 'e' ∧ char ≠ 'E'

private theorem endsNumber_nil : EndsNumber [] := fun _ => nofun

theorem endsNumber_cons {char : Char}
    (stops : char.isDigit = false ∧ char ≠ '.' ∧ char ≠ 'e' ∧ char ≠ 'E') :
    EndsNumber (char :: rest) := by
  intro first isFirst
  cases isFirst
  exact stops

theorem endsNumber_append (blank : Blanks after) (ends : EndsNumber rest) :
    EndsNumber (after ++ rest) := by
  cases after with
  | nil => exact ends
  | cons char more =>
    intro first isFirst
    cases isFirst
    have white := blank char (List.mem_cons_self ..)
    simp only [isBlank, Bool.or_eq_true, beq_iff_eq] at white
    rcases white with ((rfl | rfl) | rfl) | rfl <;> decide

theorem digits?_append (areDigits : Numeral.IsDigits text)
    (ends : ∀ char ∈ rest.head?, char.isDigit = false) :
    digits? (text ++ rest) = some (text, rest) := by
  obtain ⟨whole, left⟩ := run_append areDigits.digits ends
  unfold digits?
  rw [whole, left]
  exact if_neg (by simpa using areDigits.nonempty)

theorem isDigits_toDigits (number : Nat) : Numeral.IsDigits (Nat.toDigits 10 number) where
  nonempty := Nat.toDigits_ne_nil
  digits _ member := Nat.isDigit_of_mem_toDigits (by decide) (by decide) member

private theorem exists_toDigits_cons {number : Nat} (positive : 0 < number) :
    ∃ first more, Nat.toDigits 10 number = first :: more ∧ first ≠ '0' := by
  induction number using Nat.strongRecOn with
  | ind number ih =>
    by_cases small : number < 10
    · refine ⟨_, [], Nat.toDigits_of_lt_base small, ?_⟩
      rw [ne_eq, Nat.digitChar_eq_zero]
      exact Nat.pos_iff_ne_zero.mp positive
    · obtain ⟨first, more, isFirst, noZero⟩ :=
        ih (number / 10) (Nat.div_lt_self positive (by decide)) (by omega)
      rw [Nat.toDigits_of_base_le (by decide) (Nat.le_of_not_lt small), isFirst]
      exact ⟨first, _, rfl, noZero⟩

private theorem whole?_append (number : Nat) (ends : ∀ char ∈ rest.head?, char.isDigit = false) :
    whole? (Nat.toDigits 10 number ++ rest) = some (number, rest) := by
  rcases Nat.eq_zero_or_pos number with rfl | positive
  · rfl
  · have digits := digits?_append (isDigits_toDigits number) ends
    obtain ⟨first, more, isFirst, noZero⟩ := exists_toDigits_cons positive
    rw [isFirst] at digits ⊢
    have unfolded : whole? (first :: more ++ rest) = (digits? (first :: more ++ rest)).map
        fun parts => (Nat.ofDigitChars 10 parts.1 0, parts.2) := by
      unfold whole?
      split
      · next starts => exact absurd (List.cons.inj starts).1 noZero
      · rfl
    rw [unfolded, digits]
    simp only [Option.map_some, ← isFirst, Nat.ofDigitChars_ten_toDigits]

private theorem fraction?_append {fraction : List Char}
    (written : Numeral.WritesFraction fraction text)
    (ends : ∀ char ∈ rest.head?, char.isDigit = false ∧ char ≠ '.') :
    fraction? (text ++ rest) = some (fraction, rest) := by
  cases written with
  | missing =>
    unfold fraction?
    split
    · next starts => exact absurd rfl (ends '.' (by simp_all)).2
    · rfl
  | pointed areDigits => exact digits?_append areDigits fun char starts => (ends char starts).1

private theorem exponent?_append {exponent : List Char}
    (written : Numeral.WritesExponent exponent text)
    (ends : EndsNumber rest) : exponent? (text ++ rest) = some (exponent, rest) := by
  cases written with
  | missing =>
    cases rest with
    | nil => rfl
    | cons char more =>
      obtain ⟨-, -, noLower, noUpper⟩ := ends char rfl
      simp [exponent?, noLower, noUpper]
  | lettered isLetter isSign areDigits =>
    have read := digits?_append areDigits fun char starts => (ends char starts).1
    rcases isSign with rfl | rfl | rfl
    · -- The first digit is no sign.
      rename_i digits
      cases digits with
      | nil => exact absurd rfl areDigits.nonempty
      | cons first more =>
        have digit := areDigits.digits first (List.mem_cons_self ..)
        have noPlus : first ≠ '+' := by
          rintro rfl
          cases digit
        have noMinus : first ≠ '-' := by
          rintro rfl
          cases digit
        simpa [exponent?, isLetter, noPlus, noMinus] using read
    · simp [exponent?, isLetter, read]
    · simp [exponent?, isLetter, read]

private theorem exponent_starts {exponent : List Char}
    (written : Numeral.WritesExponent exponent text)
    (ends : EndsNumber rest) :
    ∀ char ∈ (text ++ rest).head?, char.isDigit = false ∧ char ≠ '.' := by
  intro char starts
  cases written with
  | missing =>
    obtain ⟨noDigit, noPoint, -⟩ := ends char starts
    exact ⟨noDigit, noPoint⟩
  | lettered isLetter =>
    cases starts
    rcases isLetter with rfl | rfl <;> decide

private theorem fraction_starts {fraction : List Char}
    (written : Numeral.WritesFraction fraction text)
    (ends : ∀ char ∈ rest.head?, char.isDigit = false) :
    ∀ char ∈ (text ++ rest).head?, char.isDigit = false := by
  intro char starts
  cases written with
  | missing => exact ends char starts
  | pointed =>
    cases starts
    rfl

private theorem numeral?_append {numeral : Numeral} (written : numeral.Written text)
    (ends : EndsNumber rest) : numeral? (text ++ rest) = some (numeral, rest) := by
  obtain ⟨fraction, exponent, fractionWritten, exponentWritten, rfl⟩ := written
  have beforeExponent := exponent_starts exponentWritten ends
  have readExponent := exponent?_append exponentWritten ends
  have readFraction := fraction?_append fractionWritten beforeExponent
  have readWhole := whole?_append numeral.whole
    (fraction_starts fractionWritten fun char starts => (beforeExponent char starts).1)
  obtain ⟨negative, whole, fractionDigits, exponentDigits⟩ := numeral
  unfold numeral?
  cases negative with
  | true => simp [readWhole, readFraction, readExponent]
  | false =>
    -- The first digit is no sign.
    obtain ⟨first, more, isFirst⟩ := List.exists_cons_of_ne_nil (isDigits_toDigits whole).nonempty
    have digit := (isDigits_toDigits whole).digits first (isFirst ▸ List.mem_cons_self ..)
    have noSign : first ≠ '-' := by
      rintro rfl
      cases digit
    simp only [isFirst, List.cons_append] at readWhole
    simp [isFirst, noSign, readWhole, readFraction, readExponent]

private theorem not_surrogate (char : Char) :
    isLead char.toNat = false ∧ isTrail char.toNat = false := by
  have valid : char.toNat < 0xD800 ∨ 0xDFFF < char.toNat ∧ char.toNat < 0x110000 := char.valid
  simp only [isLead, isTrail, Bool.and_eq_false_iff, decide_eq_false_iff_not]
  omega

theorem characters?_cons (char : Char) (later : List Nat) :
    characters? (char.toNat :: later) = (characters? later).map (char :: ·) := by
  obtain ⟨noLead, noTrail⟩ := not_surrogate char
  rw [characters?.eq_def]
  simp [noLead, noTrail]

private theorem characters?_pair {char : Char} {lead trail : Nat} (leads : isLead lead = true)
    (trails : isTrail trail = true)
    (isPair : char.toNat = 0x10000 + (lead - 0xD800) * 1024 + (trail - 0xDC00))
    (later : List Nat) :
    characters? (lead :: trail :: later) = (characters? later).map (char :: ·) := by
  simp [characters?, leads, trails, ← isPair]

/-- A character is read as codes that make it up again, whatever follows. -/
theorem exists_codes {char : Char} (written : WritesChar char text) :
    ∃ codes, (∀ later, characters? (codes ++ later) = (characters? later).map (char :: ·)) ∧
      ∀ rest later after, codes? rest = some (later, after) →
        codes? (text ++ rest) = some (codes ++ later, after) := by
  cases written with
  | plain printed noQuote noBackslash =>
    refine ⟨[char.toNat], characters?_cons char, fun rest later after read => ?_⟩
    have visible : ¬ char.toNat < 32 := Nat.not_lt.mpr printed
    simp [codes?, noBackslash, visible, read]
  | @short letter standsFor =>
    refine ⟨[char.toNat], characters?_cons char, fun rest later after read => ?_⟩
    have noCode : letter ≠ 'u' := by
      rintro rfl
      cases standsFor
    simp [codes?, noCode, standsFor, read]
  | code isCode =>
    refine ⟨[char.toNat], characters?_cons char, fun rest later after read => ?_⟩
    simp [codes?, isCode, read]
  | @pair _ _ _ _ _ _ _ _ lead trail isLeadCode leads isTrailCode trails isPair =>
    refine ⟨[lead, trail], characters?_pair leads trails isPair, fun rest later after read => ?_⟩
    simp [codes?, isLeadCode, isTrailCode, read]

private theorem exists_codes_of_chars {chars : List Char} (written : WritesChars chars text) :
    ∃ codes, characters? codes = some chars ∧
      ∀ rest, codes? (text ++ '"' :: rest) = some (codes, rest) := by
  induction written with
  | nil => exact ⟨[], rfl, fun rest => rfl⟩
  | cons first later ih =>
    obtain ⟨firstCodes, makeFirst, readFirst⟩ := exists_codes first
    obtain ⟨laterCodes, makeLater, readLater⟩ := ih
    refine ⟨firstCodes ++ laterCodes, ?_, fun rest => ?_⟩
    · rw [makeFirst, makeLater, Option.map_some]
    · rw [List.append_assoc]
      exact readFirst _ _ _ (readLater rest)

private theorem text?_append {string : String} (written : WritesChars string.toList text)
    (rest : List Char) : text? (text ++ '"' :: rest) = some (some string, rest) := by
  obtain ⟨codes, make, read⟩ := exists_codes_of_chars written
  simp [text?, read, make]

def member? (fuel : Nat) : List Char → Option ((JsonText × Json) × List Char)
  | '"' :: afterQuote => do
    let (name, rest) ← text? afterQuote
    match skipBlank rest with
    | ':' :: afterColon =>
      let (value, rest) ← value? fuel (skipBlank afterColon)
      return ((name, value), rest)
    | _ => none
  | _ => none

private theorem members?_of_last {fuel : Nat} {member : JsonText × Json} {left : List Char}
    (read : member? fuel text = some (member, rest)) (ends : skipBlank rest = '\x7d' :: left) :
    members? (fuel + 1) text = some ([member], left) := by
  unfold member? at read
  split at read
  · obtain ⟨⟨name, afterName⟩, readName, read⟩ := Option.bind_eq_some_iff.mp read
    dsimp only at read
    split at read
    · next isColon =>
      obtain ⟨⟨value, afterValue⟩, readValue, result⟩ := Option.bind_eq_some_iff.mp read
      cases result
      simp [members?, readName, isColon, readValue, ends]
    · cases read
  · cases read

private theorem members?_of_earlier {fuel : Nat} {member : JsonText × Json} {later left : List Char}
    {members : List (JsonText × Json)} (read : member? fuel text = some (member, rest))
    (continues : skipBlank rest = ',' :: later)
    (readLater : members? fuel (skipBlank later) = some (members, left)) :
    members? (fuel + 1) text = some (member :: members, left) := by
  unfold member? at read
  split at read
  · obtain ⟨⟨name, afterName⟩, readName, read⟩ := Option.bind_eq_some_iff.mp read
    dsimp only at read
    split at read
    · next isColon =>
      obtain ⟨⟨value, afterValue⟩, readValue, result⟩ := Option.bind_eq_some_iff.mp read
      cases result
      simp [members?, readName, isColon, readValue, continues, readLater]
    · cases read
  · cases read

/-- What the reader makes of a text that writes a part, given the characters behind it. -/
def Reads (fuel : Nat) (text : List Char) : Part → Prop
  | .value value => ∀ rest, EndsNumber rest → value? fuel (text ++ rest) = some (value, rest)
  | .items items => ∀ after rest, Blanks after →
    items? fuel (text ++ (after ++ ']' :: rest)) = some (items, rest)
  | .member name value => ∀ rest, EndsNumber rest →
    member? fuel (text ++ rest) = some ((some name, value), rest)
  | .members members => ∀ after rest, Blanks after →
    members? fuel (text ++ (after ++ '\x7d' :: rest)) = some (members, rest)

/-- The first character of a part: no blank, and no bracket that would close it. -/
structure Starts (first : Char) : Prop where
  solid : isBlank first = false
  noBracket : first ≠ ']'
  noBrace : first ≠ '\x7d'

private theorem starts_of_isDigit {first : Char} (digit : first.isDigit = true) : Starts first := by
  refine ⟨?_, ?_, ?_⟩
  · rw [← Bool.not_eq_true]
    intro blank
    simp only [isBlank, Bool.or_eq_true, beq_iff_eq] at blank
    rcases blank with ((rfl | rfl) | rfl) | rfl <;> exact absurd digit (by decide)
  · rintro rfl
    exact absurd digit (by decide)
  · rintro rfl
    exact absurd digit (by decide)

theorem exists_numeral_cons {numeral : Numeral} (written : numeral.Written text) :
    ∃ first more, text = first :: more ∧ (first = '-' ∨ first.isDigit = true) := by
  obtain ⟨fraction, exponent, -, -, rfl⟩ := written
  obtain ⟨first, more, isFirst⟩ :=
    List.exists_cons_of_ne_nil (isDigits_toDigits numeral.whole).nonempty
  have digit := (isDigits_toDigits numeral.whole).digits first (isFirst ▸ List.mem_cons_self ..)
  rw [isFirst]
  cases numeral.negative with
  | true => exact ⟨'-', _, rfl, .inl rfl⟩
  | false => exact ⟨first, _, rfl, .inr digit⟩

theorem exists_cons_of_written {part : Part} (written : Written part text) :
    ∃ first more, text = first :: more ∧ Starts first := by
  induction written with
  | number numeralWritten =>
    obtain ⟨first, more, isFirst, rfl | digit⟩ := exists_numeral_cons numeralWritten
    · exact ⟨_, more, isFirst, by decide, by decide, by decide⟩
    · exact ⟨first, more, isFirst, starts_of_isDigit digit⟩
  | lastItem _ ih => exact ih
  | earlierItem _ _ _ _ ih =>
    obtain ⟨first, more, rfl, starts⟩ := ih
    exact ⟨first, _, rfl, starts⟩
  | lastMember _ ih => exact ih
  | earlierMember _ _ _ _ ih =>
    obtain ⟨first, more, rfl, starts⟩ := ih
    exact ⟨first, _, rfl, starts⟩
  | _ => exact ⟨_, _, rfl, by decide, by decide, by decide⟩

theorem startsSolid_of_written {part : Part} (written : Written part text) (rest : List Char) :
    StartsSolid (text ++ rest) := by
  obtain ⟨first, more, rfl, starts⟩ := exists_cons_of_written written
  intro char isFirst
  cases isFirst
  exact starts.solid

private theorem value?_numeral {numeral : Numeral} (fuel : Nat) (written : numeral.Written text)
    (ends : EndsNumber rest) :
    value? (fuel + 1) (text ++ rest) = some (.number numeral, rest) := by
  have read := numeral?_append written ends
  obtain ⟨first, more, rfl, starts⟩ := exists_numeral_cons written
  rw [List.cons_append] at read ⊢
  unfold value?
  split
  case h_7 => rw [read, Option.map_some]
  all_goals
    rename_i starting
    obtain ⟨rfl, -⟩ := List.cons.inj starting
    exact absurd starts (by decide)

private theorem value?_array {fuel : Nat} {inner : List Char} {items : List Json}
    (skipped : skipBlank text = inner) (opens : ∀ more, inner ≠ ']' :: more)
    (read : items? fuel inner = some (items, rest)) :
    value? (fuel + 1) ('[' :: text) = some (.array items, rest) := by
  rw [value?, skipped]
  split
  · exact absurd rfl (opens _)
  · rw [read, Option.map_some]

private theorem value?_object {fuel : Nat} {inner : List Char} {members : List (JsonText × Json)}
    (skipped : skipBlank text = inner) (opens : ∀ more, inner ≠ '\x7d' :: more)
    (read : members? fuel inner = some (members, rest)) :
    value? (fuel + 1) ('\x7b' :: text) = some (.object members, rest) := by
  rw [value?, skipped]
  split
  · exact absurd rfl (opens _)
  · rw [read, Option.map_some]

section
variable {fuel : Nat} {more : List Char}

private theorem reads_string {string : String} (charsWritten : WritesChars string.toList text) :
    Reads (fuel + 1) ('"' :: (text ++ ['"'])) (.value (.string (some string))) := by
  intro rest _
  simp [value?, text?_append charsWritten]

private theorem reads_noItems (blank : Blanks before) :
    Reads (fuel + 1) ('[' :: (before ++ [']'])) (.value (.array [])) := by
  intro rest _
  have skipped := skipBlank_append blank (startsSolid_cons ']' rest rfl)
  simp [value?, skipped]

private theorem reads_array {items : List Json} (blankBefore : Blanks before)
    (itemsWritten : Written (.items items) text) (blankAfter : Blanks after)
    (reads : Reads fuel text (.items items)) :
    Reads (fuel + 1) ('[' :: (before ++ (text ++ (after ++ [']'])))) (.value (.array items)) := by
  intro rest _
  have read := reads after rest blankAfter
  have skipped := skipBlank_append blankBefore
    (startsSolid_of_written itemsWritten (after ++ ']' :: rest))
  simp only [List.cons_append, List.append_assoc, List.nil_append]
  refine value?_array skipped ?_ read
  obtain ⟨first, more, rfl, starts⟩ := exists_cons_of_written itemsWritten
  exact fun _ same => starts.noBracket (List.cons.inj same).1

private theorem reads_noMembers (blank : Blanks before) :
    Reads (fuel + 1) ('\x7b' :: (before ++ ['\x7d'])) (.value (.object [])) := by
  intro rest _
  have skipped := skipBlank_append blank (startsSolid_cons '\x7d' rest rfl)
  simp [value?, skipped]

private theorem reads_object {members : List (JsonText × Json)} (blankBefore : Blanks before)
    (membersWritten : Written (.members members) text) (blankAfter : Blanks after)
    (reads : Reads fuel text (.members members)) :
    Reads (fuel + 1) ('\x7b' :: (before ++ (text ++ (after ++ ['\x7d']))))
      (.value (.object members)) := by
  intro rest _
  have read := reads after rest blankAfter
  have skipped := skipBlank_append blankBefore
    (startsSolid_of_written membersWritten (after ++ '\x7d' :: rest))
  simp only [List.cons_append, List.append_assoc, List.nil_append]
  refine value?_object skipped ?_ read
  obtain ⟨first, more, rfl, starts⟩ := exists_cons_of_written membersWritten
  exact fun _ same => starts.noBrace (List.cons.inj same).1

private theorem reads_lastItem {item : Json} (reads : Reads fuel text (.value item)) :
    Reads (fuel + 1) text (.items [item]) := by
  intro after rest blankAfter
  have read := reads (after ++ ']' :: rest)
    (endsNumber_append blankAfter (endsNumber_cons (by decide)))
  have ends := skipBlank_append blankAfter (startsSolid_cons ']' rest rfl)
  simp [items?, read, ends]

private theorem reads_earlierItem {item : Json} {items : List Json}
    (readsItem : Reads fuel text (.value item)) (blankAfter : Blanks after)
    (blankBefore : Blanks before) (restWritten : Written (.items items) more)
    (readsRest : Reads fuel more (.items items)) :
    Reads (fuel + 1) (text ++ (after ++ ',' :: (before ++ more))) (.items (item :: items)) := by
  intro behind rest blankBehind
  have readItem := readsItem (after ++ ',' :: (before ++ (more ++ (behind ++ ']' :: rest))))
    (endsNumber_append blankAfter (endsNumber_cons (by decide)))
  have continues := skipBlank_append blankAfter
    (startsSolid_cons ',' (before ++ (more ++ (behind ++ ']' :: rest))) rfl)
  have skipped := skipBlank_append blankBefore
    (startsSolid_of_written restWritten (behind ++ ']' :: rest))
  simp [items?, readItem, continues, skipped, readsRest behind rest blankBehind]

private theorem reads_member {name : String} {value : Json} {inside : List Char}
    (nameWritten : WritesChars name.toList inside) (blankAfter : Blanks after)
    (blankBefore : Blanks before) (valueWritten : Written (.value value) text)
    (reads : Reads fuel text (.value value)) :
    Reads fuel ('"' :: (inside ++ '"' :: (after ++ ':' :: (before ++ text)))) (.member name value) := by
  intro rest ends
  have readName := text?_append nameWritten (after ++ ':' :: (before ++ (text ++ rest)))
  have isColon := skipBlank_append blankAfter
    (startsSolid_cons ':' (before ++ (text ++ rest)) rfl)
  have skipped := skipBlank_append blankBefore (startsSolid_of_written valueWritten rest)
  simp [member?, readName, isColon, skipped, reads rest ends]

private theorem reads_lastMember {name : String} {value : Json}
    (reads : Reads fuel text (.member name value)) :
    Reads (fuel + 1) text (.members [(some name, value)]) := by
  intro after rest blankAfter
  have read := reads (after ++ '\x7d' :: rest)
    (endsNumber_append blankAfter (endsNumber_cons (by decide)))
  exact members?_of_last read (skipBlank_append blankAfter (startsSolid_cons _ _ rfl))

private theorem reads_earlierMember {name : String} {value : Json}
    {members : List (JsonText × Json)}
    (readsMember : Reads fuel text (.member name value)) (blankAfter : Blanks after)
    (blankBefore : Blanks before) (restWritten : Written (.members members) more)
    (readsRest : Reads fuel more (.members members)) :
    Reads (fuel + 1) (text ++ (after ++ ',' :: (before ++ more)))
      (.members ((some name, value) :: members)) := by
  intro behind rest blankBehind
  have readMember := readsMember (after ++ ',' :: (before ++ (more ++ (behind ++ '\x7d' :: rest))))
    (endsNumber_append blankAfter (endsNumber_cons (by decide)))
  have continues := skipBlank_append blankAfter
    (startsSolid_cons ',' (before ++ (more ++ (behind ++ '\x7d' :: rest))) rfl)
  have skipped := skipBlank_append blankBefore
    (startsSolid_of_written restWritten (behind ++ '\x7d' :: rest))
  have readRest := readsRest behind rest blankBehind
  rw [← skipped] at readRest
  simpa using members?_of_earlier readMember continues readRest

end

/-- The steps that suffice to read a text that writes a part. -/
def enough (text : List Char) : Part → Nat
  | .value _ => text.length
  | .items _ => text.length + 1
  | .member _ _ => text.length
  | .members _ => text.length + 1

/-- With enough steps a part is read from each of its texts. Every step but that of a member uses up
one of the characters that no part of it needs. -/
theorem reads_of_written {part : Part} (written : Written part text) :
    ∀ fuel, enough text part ≤ fuel → Reads fuel text part := by
  induction written with
  | null | true | false =>
    rintro (_ | fuel) bound
    · cases bound
    · exact fun rest _ => rfl
  | number numeralWritten =>
    obtain ⟨first, more, rfl, -⟩ := exists_numeral_cons numeralWritten
    rintro (_ | fuel) bound
    · cases bound
    · exact fun rest ends => value?_numeral fuel numeralWritten ends
  | string charsWritten =>
    rintro (_ | fuel) bound
    · cases bound
    · exact reads_string charsWritten
  | noItems blank =>
    rintro (_ | fuel) bound
    · cases bound
    · exact reads_noItems blank
  | array blankBefore itemsWritten blankAfter ih =>
    rintro (_ | fuel) bound
    · cases bound
    · simp only [enough, List.length_cons, List.length_append] at ih bound
      exact reads_array blankBefore itemsWritten blankAfter (ih fuel (by omega))
  | noMembers blank =>
    rintro (_ | fuel) bound
    · cases bound
    · exact reads_noMembers blank
  | object blankBefore membersWritten blankAfter ih =>
    rintro (_ | fuel) bound
    · cases bound
    · simp only [enough, List.length_cons, List.length_append] at ih bound
      exact reads_object blankBefore membersWritten blankAfter (ih fuel (by omega))
  | lastItem itemWritten ih =>
    rintro (_ | fuel) bound
    · cases bound
    · exact reads_lastItem (ih fuel (Nat.le_of_succ_le_succ bound))
  | earlierItem itemWritten blankAfter blankBefore restWritten ihItem ihRest =>
    rintro (_ | fuel) bound
    · cases bound
    · simp only [enough, List.length_cons, List.length_append] at ihItem ihRest bound
      exact reads_earlierItem (ihItem fuel (by omega)) blankAfter blankBefore restWritten
        (ihRest fuel (by omega))
  | member nameWritten blankAfter blankBefore valueWritten ih =>
    intro fuel bound
    simp only [enough, List.length_cons, List.length_append] at ih bound
    exact reads_member nameWritten blankAfter blankBefore valueWritten (ih fuel (by omega))
  | lastMember memberWritten ih =>
    rintro (_ | fuel) bound
    · cases bound
    · exact reads_lastMember (ih fuel (Nat.le_of_succ_le_succ bound))
  | earlierMember memberWritten blankAfter blankBefore restWritten ihMember ihRest =>
    rintro (_ | fuel) bound
    · cases bound
    · simp only [enough, List.length_cons, List.length_append] at ihMember ihRest bound
      exact reads_earlierMember (ihMember fuel (by omega)) blankAfter blankBefore restWritten
        (ihRest fuel (by omega))

theorem read?_of_writes {value : Json} {text : String} (writes : value.Writes text) :
    read? text = some value := by
  obtain ⟨before, inside, after, blankBefore, written, blankAfter, isText⟩ := writes
  have started := skipBlank_append blankBefore (startsSolid_of_written written after)
  have nothing : StartsSolid [] := fun _ => nofun
  have ended : skipBlank after = [] := by
    simpa using skipBlank_append blankAfter nothing
  have endsNumber : EndsNumber after := by
    simpa using endsNumber_append blankAfter endsNumber_nil
  have bound : enough inside (.value value) ≤ 2 * (inside ++ after).length + 2 := by
    simp only [enough, List.length_append]
    omega
  have read := reads_of_written written _ bound after endsNumber
  simp only [read?, isText, started, read]
  simp [ended]

end Json

end Handbook
