import Handbook.Proofs.Markup.Lines
import Handbook.Proofs.Markup.Words

namespace Handbook.Markup

open Text

instance (word : String) : Decidable (IsWord word) :=
  decidable_of_iff
    (' ' ∉ word.toList ∧ '\n' ∉ word.toList ∧ allBlank word.toList = false)
    ⟨fun ⟨noSpace, noBreak, notBlank⟩ => ⟨noSpace, noBreak, notBlank⟩,
      fun isWord => ⟨isWord.noSpace, isWord.noBreak, isWord.notBlank⟩⟩

/-- The words of a text paragraph: the first starts neither blank nor as a header does, and the last
does not end blank. -/
structure IsText (words : List String) : Prop where
  every : ∀ word ∈ words, IsWord word
  opens : ∃ word ∈ words.head?, ∃ char ∈ word.toList.head?, isBlank char = false ∧ char ≠ '#'
  closes : ∃ word ∈ words.getLast?, ∃ char ∈ word.toList.getLast?, isBlank char = false

/-- The same for a computer, which does not search all characters for the first and the last one. -/
theorem isText_iff {words : List String} :
    IsText words ↔ (∀ word ∈ words, IsWord word) ∧
      (words.head?.any fun word => word.toList.head?.any fun char =>
        !isBlank char && char != '#') = true ∧
      (words.getLast?.any fun word => word.toList.getLast?.any fun char => !isBlank char) = true := by
  simp only [Option.any_eq_true, Bool.and_eq_true, Bool.not_eq_true', bne_iff_ne]
  exact ⟨fun isText => ⟨isText.every, isText.opens, isText.closes⟩,
    fun ⟨every, opens, closes⟩ => ⟨every, opens, closes⟩⟩

instance (words : List String) : Decidable (IsText words) := decidable_of_iff' _ isText_iff

end Handbook.Markup

namespace Handbook.Paragraph

open Markup

/-- A paragraph that reading can answer. -/
def WellFormed : Paragraph → Prop
  | .header level words => 1 ≤ level ∧ ∀ word ∈ words, IsWord word
  | .regular words => IsText words

instance : DecidablePred WellFormed
  | .header level words => inferInstanceAs (Decidable (1 ≤ level ∧ ∀ word ∈ words, IsWord word))
  | .regular words => inferInstanceAs (Decidable (IsText words))

/-- What stands before the words: the marks of a header and a space. -/
def marks : Paragraph → List Char
  | .header level _ => List.replicate level '#' ++ [' ']
  | .regular _ => []

def print (paragraph : Paragraph) : String :=
  String.ofList paragraph.marks ++ paragraph.plainText ++ " \n\n"

/-- The line of the paragraph in its print, up to the space at the end. -/
def lineOf (paragraph : Paragraph) : List Char := paragraph.marks ++ paragraph.plainText.toList

end Handbook.Paragraph

namespace Handbook.Markup

open Text

def print (paragraphs : List Paragraph) : String := String.join (paragraphs.map Paragraph.print)

/-- A line that is read as part of well-formed paragraphs. -/
def Line.WellFormed : Line → Prop
  | .blank => True
  | .header level words => 1 ≤ level ∧ ∀ word ∈ words, IsWord word
  | .text content => IsText (wordsOf content)

private theorem not_mem_of_mem_joinContinued {char : Char} {lines : List (List Char)}
    (absent : ∀ line ∈ lines, char ∉ line) : ∀ line ∈ joinContinued lines, char ∉ line := by
  induction lines with
  | nil => simp [joinContinued]
  | cons line later ih =>
    obtain ⟨notInLine, notInLater⟩ := List.forall_mem_cons.mp absent
    have notInShorter : char ∉ line.dropLast := fun found =>
      notInLine (List.dropLast_subset line found)
    have joined := ih notInLater
    rw [joinContinued_cons]
    split
    · cases cut : joinContinued later with
      | nil =>
        dsimp only
        split
        · simp
        · simpa using notInShorter
      | cons next rest =>
        rw [cut] at joined
        obtain ⟨notInNext, notInRest⟩ := List.forall_mem_cons.mp joined
        refine List.forall_mem_cons.mpr ⟨?_, notInRest⟩
        simp [notInShorter, notInNext]
    · exact List.forall_mem_cons.mpr ⟨notInLine, joined⟩

private theorem lineBreak_not_mem_logicalLines {text line : List Char}
    (member : line ∈ logicalLines text) :
    '\n' ∉ line :=
  not_mem_of_mem_joinContinued (fun _ inPieces => (mem_pieces inPieces).1) line member

/-- What starts and ends with characters that show has the words of a text. -/
theorem isText_wordsOf {content before rest : List Char} {first last : Char}
    (oneLine : '\n' ∉ content) (start : content = first :: rest)
    (solid : isBlank first = false) (noMark : first ≠ '#')
    (stop : content = before ++ [last]) (solidEnd : isBlank last = false) :
    IsText (wordsOf content) := by
  refine ⟨fun word member => isWord_of_mem_wordsOf oneLine member, ?_, ?_⟩
  · obtain ⟨piece, later, words⟩ := exists_wordsOf_cons solid rest
    rw [start, words]
    exact ⟨_, rfl, first, by simp, solid, noMark⟩
  · obtain ⟨earlier, piece, words⟩ := exists_wordsOf_concat solidEnd before
    rw [stop, words]
    exact ⟨_, List.getLast?_concat, last, by simp, solidEnd⟩

private theorem wellFormed_ofChars {line : List Char} (oneLine : '\n' ∉ line) :
    (Line.ofChars line).WellFormed := by
  have within : ∀ char ∈ trimStart line, char ∈ line := fun char found =>
    (List.dropWhile_suffix isBlank).subset found
  unfold Line.ofChars
  split
  · trivial
  · next rest trimmed =>
    have noBreak : '\n' ∉ rest.dropWhile (· == '#') := by
      intro found
      have inRest := (List.dropWhile_suffix (· == '#')).subset found
      exact oneLine (within _ (trimmed ▸ List.mem_cons_of_mem _ inRest))
    exact ⟨Nat.le_add_right 1 _, fun word member => isWord_of_mem_wordsOf noBreak member⟩
  · next first rest noMark trimmed =>
    have solid := not_blank_of_trimStart trimmed
    have start := trimEnd_cons solid rest
    obtain ⟨before, last, stop, solidEnd⟩ :=
      exists_trimEnd_concat (start ▸ List.cons_ne_nil first (trimEnd rest))
    have ended : '\n' ∉ trimEnd (first :: rest) := by
      intro found
      exact oneLine (within _ (trimmed ▸ (List.rdropWhile_prefix isBlank _).subset found))
    exact isText_wordsOf ended start solid noMark stop solidEnd

theorem IsText.append {first second : List String} (one : first = [] ∨ IsText first)
    (two : IsText second) : IsText (first ++ second) := by
  rcases one with rfl | one
  · exact two
  · obtain ⟨word, inFirst, opens⟩ := one.opens
    obtain ⟨other, inSecond, closes⟩ := two.closes
    refine ⟨?_, ⟨word, ?_, opens⟩, ⟨other, ?_, closes⟩⟩
    · intro member inBoth
      exact (List.mem_append.mp inBoth).elim (one.every member) (two.every member)
    · rw [List.head?_append, Option.mem_def.mp inFirst]
      rfl
    · rw [List.getLast?_append, Option.mem_def.mp inSecond]
      rfl

theorem wellFormed_close {gathered : List Char}
    (texts : wordsOf gathered = [] ∨ IsText (wordsOf gathered)) :
    ∀ paragraph ∈ close gathered, paragraph.WellFormed := by
  rw [close_eq]
  split
  · simp
  · next some => simpa [Paragraph.WellFormed] using texts.resolve_left some

/-- Gathering keeps what it holds empty or the words of a text, so all it closes is well formed. -/
theorem wellFormed_gather {gathered : List Char}
    (texts : wordsOf gathered = [] ∨ IsText (wordsOf gathered)) {lines : List Line}
    (each : ∀ line ∈ lines, line.WellFormed) :
    ∀ paragraph ∈ gather gathered lines, paragraph.WellFormed := by
  induction lines generalizing gathered with
  | nil => exact wellFormed_close texts
  | cons line later ih =>
    obtain ⟨this, others⟩ := List.forall_mem_cons.mp each
    have afresh := @ih [] (.inl rfl) others
    cases line with
    | blank =>
      exact List.forall_mem_append.mpr ⟨wellFormed_close texts, afresh⟩
    | header level words =>
      exact List.forall_mem_append.mpr
        ⟨wellFormed_close texts, List.forall_mem_cons.mpr ⟨this, afresh⟩⟩
    | text content =>
      have longer : IsText (wordsOf (extend gathered content)) := by
        rw [wordsOf_extend]
        exact IsText.append texts this
      exact ih (.inr longer) others

theorem wellFormed_read (text : String) : ∀ paragraph ∈ read text, paragraph.WellFormed := by
  apply wellFormed_gather (.inl rfl)
  intro line member
  obtain ⟨chars, inLines, rfl⟩ := List.mem_map.mp member
  exact wellFormed_ofChars (lineBreak_not_mem_logicalLines inLines)

private theorem toList_print_cons (paragraph : Paragraph) (later : List Paragraph) :
    (print (paragraph :: later)).toList =
      (paragraph.lineOf ++ [' ']) ++ '\n' :: '\n' :: (print later).toList := by
  simp [print, Paragraph.print, Paragraph.lineOf]

private theorem logicalLines_line {line : List Char} (oneLine : '\n' ∉ line)
    (ends : line.getLast? ≠ some '\\') (rest : List Char) :
    logicalLines (line ++ '\n' :: rest) = line :: logicalLines rest := by
  rw [logicalLines, pieces_append_cons, pieces_of_not_mem oneLine, List.singleton_append,
    joinContinued_cons, if_neg ends, logicalLines]

private theorem lineBreak_not_mem_intercalate {words : List String}
    (every : ∀ word ∈ words, IsWord word) : '\n' ∉ (" ".intercalate words).toList := by
  induction words with
  | nil => simp
  | cons word later ih =>
    obtain ⟨isWord, others⟩ := List.forall_mem_cons.mp every
    cases later with
    | nil => simpa using isWord.noBreak
    | cons next more => simpa [String.intercalate_cons_cons, isWord.noBreak] using ih others

private theorem exists_intercalate_cons (word : String) (later : List String) :
    ∃ rest, (" ".intercalate (word :: later)).toList = word.toList ++ rest := by
  cases later with
  | nil => exact ⟨[], by simp⟩
  | cons next more => exact ⟨_, by simp [String.intercalate_cons_cons]; rfl⟩

/-- The words of a text joined by spaces start and end with characters that show. -/
theorem IsText.exists_ends {words : List String} (isText : IsText words) :
    ∃ first rest before last, (" ".intercalate words).toList = first :: rest ∧
      (" ".intercalate words).toList = before ++ [last] ∧
      isBlank first = false ∧ first ≠ '#' ∧ isBlank last = false := by
  obtain ⟨word, atHead, first, atStart, solid, noMark⟩ := isText.opens
  obtain ⟨other, atLast, last, atEnd, solidEnd⟩ := isText.closes
  obtain ⟨later, fromHead⟩ := List.head?_eq_some_iff.mp atHead
  obtain ⟨earlier, toLast⟩ := List.getLast?_eq_some_iff.mp atLast
  obtain ⟨more, opened⟩ := List.head?_eq_some_iff.mp atStart
  obtain ⟨less, closed⟩ := List.getLast?_eq_some_iff.mp atEnd
  obtain ⟨rest, plain⟩ := exists_intercalate_cons word later
  obtain ⟨before, joined⟩ := exists_intercalate_concat earlier
  refine ⟨first, more ++ rest, before.toList ++ less, last, ?_, ?_, solid, noMark, solidEnd⟩
  · rw [fromHead, plain, opened, List.cons_append]
  · rw [toLast, joined, String.toList_append, closed, List.append_assoc]

private theorem wordsOf_spaced {words : List String} (every : ∀ word ∈ words, IsWord word) :
    wordsOf (' ' :: (" ".intercalate words).toList ++ [' ']) = words := by
  have front := wordsOf_append_space [] ((" ".intercalate words).toList ++ [' '])
  have back := wordsOf_append_space (" ".intercalate words).toList []
  rw [List.nil_append, wordsOf_nil, List.nil_append] at front
  rw [List.cons_append, front, back, wordsOf_nil, List.append_nil, wordsOf_intercalate every]

private theorem ofChars_header {level : Nat} {words : List String} (some : 1 ≤ level)
    (every : ∀ word ∈ words, IsWord word) :
    Line.ofChars ((Paragraph.header level words).lineOf ++ [' ']) = .header level words := by
  obtain ⟨deeper, rfl⟩ := Nat.exists_eq_add_of_le some
  have line : (Paragraph.header (1 + deeper) words).lineOf ++ [' '] =
      '#' :: (List.replicate deeper '#' ++ (' ' :: (" ".intercalate words).toList ++ [' '])) := by
    simp [Paragraph.lineOf, Paragraph.marks, Paragraph.plainText, Paragraph.words, Nat.add_comm 1,
      List.replicate_succ]
  have marks : ∀ char ∈ List.replicate deeper '#', (char == '#') = true := by simp
  rw [line, Line.ofChars, trimStart, List.dropWhile_cons_of_neg (by decide)]
  simp only [List.takeWhile_append_of_pos marks, List.dropWhile_append_of_pos marks]
  rw [List.cons_append, List.takeWhile_cons_of_neg (by decide),
    List.dropWhile_cons_of_neg (by decide), ← List.cons_append, wordsOf_spaced every]
  simp

private theorem ofChars_text {first : Char} (solid : isBlank first = false) (noMark : first ≠ '#')
    (rest : List Char) : Line.ofChars (first :: rest) = .text (trimEnd (first :: rest)) :=
  ofChars_of_text (List.dropWhile_cons_of_neg (by simp [solid])) noMark

private theorem ofChars_regular {words : List String} (isText : IsText words) :
    Line.ofChars ((Paragraph.regular words).lineOf ++ [' ']) =
      .text (" ".intercalate words).toList := by
  obtain ⟨first, rest, before, last, opened, closed, solid, noMark, solidEnd⟩ := isText.exists_ends
  have line : (Paragraph.regular words).lineOf = (" ".intercalate words).toList := rfl
  have shape : (" ".intercalate words).toList ++ [' '] = first :: (rest ++ [' ']) := by
    rw [opened, List.cons_append]
  have trimmed : trimEnd ((" ".intercalate words).toList ++ [' ']) =
      (" ".intercalate words).toList := by
    rw [trimEnd_concat_blank (by decide), closed, trimEnd_concat_solid solidEnd]
  rw [line, shape, ofChars_text solid noMark, ← shape, trimmed]

/-- The line of a well-formed paragraph and the blank line behind it give back the paragraph. -/
theorem gather_lineOf {paragraph : Paragraph} (wellFormed : paragraph.WellFormed)
    (lines : List Line) :
    gather [] (Line.ofChars (paragraph.lineOf ++ [' ']) :: .blank :: lines) =
      paragraph :: gather [] lines := by
  cases paragraph with
  | header level words =>
    obtain ⟨some, every⟩ := wellFormed
    rw [ofChars_header some every]
    simp [gather, close_eq]
  | regular words =>
    have isText : IsText words := wellFormed
    have words_eq := wordsOf_intercalate isText.every
    obtain ⟨word, member, -⟩ := isText.opens
    have nonempty : words ≠ [] := by
      rintro rfl
      cases member
    rw [ofChars_regular isText]
    simp only [gather, extend, close_eq, List.isEmpty_nil, if_true, words_eq, if_neg nonempty,
      List.singleton_append]

private theorem isWord_of_wellFormed {paragraph : Paragraph} (wellFormed : paragraph.WellFormed) :
    ∀ word ∈ paragraph.words, IsWord word := by
  cases paragraph with
  | header level words => exact wellFormed.2
  | regular words => exact IsText.every wellFormed

theorem read_print {paragraphs : List Paragraph}
    (wellFormed : ∀ paragraph ∈ paragraphs, paragraph.WellFormed) :
    read (print paragraphs) = paragraphs := by
  unfold read
  induction paragraphs with
  | nil => rfl
  | cons paragraph later ih =>
    obtain ⟨this, others⟩ := List.forall_mem_cons.mp wellFormed
    have oneLine : '\n' ∉ paragraph.lineOf ++ [' '] := by
      have plain : '\n' ∉ paragraph.plainText.toList :=
        lineBreak_not_mem_intercalate (isWord_of_wellFormed this)
      cases paragraph <;> simpa [Paragraph.lineOf, Paragraph.marks] using plain
    have ends : (paragraph.lineOf ++ [' ']).getLast? ≠ some '\\' := by simp
    rw [toList_print_cons, logicalLines_line oneLine ends, logicalLines_lineBreak, List.map_cons,
      List.map_cons]
    exact (gather_lineOf this _).trans (congrArg _ (ih others))

/-- The answers of reading are exactly the lists of well-formed paragraphs, and each of them is read
back from its print. -/
theorem read_image_and_print :
    (∀ text, ∀ paragraph ∈ read text, paragraph.WellFormed) ∧
    (∀ paragraphs : List Paragraph, (∀ paragraph ∈ paragraphs, paragraph.WellFormed) →
      read (print paragraphs) = paragraphs) ∧
    (∀ paragraphs : List Paragraph,
      (∃ text, read text = paragraphs) ↔ ∀ paragraph ∈ paragraphs, paragraph.WellFormed) ∧
    ∀ text, read (print (read text)) = read text := by
  refine ⟨wellFormed_read, fun _ => read_print, ?_, ?_⟩
  · intro paragraphs
    constructor
    · rintro ⟨text, rfl⟩
      exact wellFormed_read text
    · intro wellFormed
      exact ⟨print paragraphs, read_print wellFormed⟩
  · intro text
    exact read_print (wellFormed_read text)

/-- Words may hold tabs and returns, end in a backslash, and start with a mark inside a header. -/
theorem read_image_and_print_odd_words :
    read (print [.header 2 ["#a\\", "\tb\r"], .header 1 [], .regular ["c\td\\", "#", "e\\"]]) =
      [.header 2 ["#a\\", "\tb\r"], .header 1 [], .regular ["c\td\\", "#", "e\\"]] :=
  read_image_and_print.2.1 _ (by decide)

end Handbook.Markup
