import Mathlib.Data.Option.Basic
import Handbook.Page.Document
import Handbook.Proofs.Markup.Reading

/-!
Line breaks with a carriage return before them. The return is blank, so text lines lose it with the
blanks at their ends, and blank lines stay blank; only behind the last word of a header does it stay.
But a backslash continues a line only right before the break, so that a return between them keeps the
line from being continued.
-/

namespace Handbook.Markup

open Text

/-- The text with a carriage return before every line break. -/
def withReturns (text : List Char) : List Char :=
  text.flatMap fun char => if char = '\n' then ['\r', '\n'] else [char]

def returned (text : String) : String := String.ofList (withReturns text.toList)

/-- A line is continued: a backslash stands right before a line break. -/
def Continues (text : List Char) : Prop := ['\\', '\n'] <:+: text

instance (text : List Char) : Decidable (Continues text) :=
  inferInstanceAs (Decidable (_ <:+: _))

/-- What carriage returns can make of the words of a header: the last one may get one behind it. -/
inductive ReturnedWords : List String → List String → Prop
  | same (words : List String) : ReturnedWords words words
  | last (earlier : List String) {word : String} (nonempty : word ≠ "") :
      ReturnedWords (earlier ++ [word]) (earlier ++ [word ++ "\r"])

/-- What carriage returns can make of a line. -/
inductive ReturnedLine : Line → Line → Prop
  | same (line : Line) : ReturnedLine line line
  | header (level : Nat) {words others : List String} (alike : ReturnedWords words others) :
      ReturnedLine (.header level words) (.header level others)

/-- What carriage returns can make of a paragraph: nothing but what they make of header words. -/
inductive ReturnedParagraph : Paragraph → Paragraph → Prop
  | regular (words : List String) : ReturnedParagraph (.regular words) (.regular words)
  | header (level : Nat) {words others : List String} (alike : ReturnedWords words others) :
      ReturnedParagraph (.header level words) (.header level others)

variable {text rest : List Char} {char : Char} {words others : List String}

theorem withReturns_lineBreak (rest : List Char) :
    withReturns ('\n' :: rest) = '\r' :: '\n' :: withReturns rest := rfl

theorem withReturns_cons_of_ne (inLine : char ≠ '\n') (rest : List Char) :
    withReturns (char :: rest) = char :: withReturns rest := by
  rw [withReturns, List.flatMap_cons, if_neg inLine, List.singleton_append, withReturns]

private theorem not_continues_of_cons (notContinues : ¬ Continues (char :: rest)) :
    ¬ Continues rest :=
  fun continues => notContinues (continues.trans (List.suffix_cons char rest).isInfix)

private theorem stays_withReturns (stays : Stays char rest) : Stays char (withReturns rest) := by
  intro backslash
  obtain ⟨nonempty, noBreak⟩ := stays backslash
  cases rest with
  | nil => exact absurd rfl nonempty
  | cons first more =>
    have inLine : first ≠ '\n' := fun lineBreak => noBreak more (lineBreak ▸ rfl)
    rw [withReturns_cons_of_ne inLine]
    refine ⟨List.cons_ne_nil _ _, ?_⟩
    intro later same
    exact inLine (List.cons.inj same).1

/-- The line as it is or with a carriage return behind it. -/
def ReturnBehind (line other : List Char) : Prop := other = line ∨ other = line ++ ['\r']

private theorem returnBehind_lead (char : Char) {lines others : List (List Char)}
    (fit : List.Forall₂ ReturnBehind lines others) :
    List.Forall₂ ReturnBehind (lead char lines) (lead char others) := by
  cases fit with
  | nil => exact .cons (.inl rfl) .nil
  | cons first later =>
    rcases first with rfl | rfl
    · exact .cons (.inl rfl) later
    · exact .cons (.inr rfl) later

/-- Where no line is continued, every logical line stays or gets a carriage return behind it. -/
theorem returnBehind_logicalLines (notContinues : ¬ Continues text) :
    List.Forall₂ ReturnBehind (logicalLines text) (logicalLines (withReturns text)) := by
  induction text with
  | nil => exact .cons (.inl rfl) .nil
  | cons char rest ih =>
    have later := ih (not_continues_of_cons notContinues)
    by_cases lineBreak : char = '\n'
    · subst char
      have stays : Stays '\r' ('\n' :: withReturns rest) :=
        fun backslash => absurd backslash (by decide)
      rw [withReturns_lineBreak, logicalLines_cons (by decide) stays, logicalLines_lineBreak,
        logicalLines_lineBreak]
      exact .cons (.inr rfl) later
    · rw [withReturns_cons_of_ne lineBreak]
      by_cases atEnd : char = '\\' ∧ rest = []
      · rw [atEnd.1, atEnd.2]
        exact .nil
      · have stays : Stays char rest := by
          intro backslash
          refine ⟨fun empty => atEnd ⟨backslash, empty⟩, ?_⟩
          rintro more rfl
          exact notContinues ⟨[], more, backslash ▸ rfl⟩
        rw [logicalLines_cons lineBreak stays, logicalLines_cons lineBreak (stays_withReturns stays)]
        exact returnBehind_lead char later

private theorem returnedWords_concat (line : List Char) :
    ReturnedWords (wordsOf line) (wordsOf (line ++ ['\r'])) := by
  have inPiece : '\r' ≠ ' ' := by decide
  obtain ⟨earlier, piece, cut, cutLonger⟩ := exists_pieces_concat inPiece line
  unfold wordsOf
  rw [cut, cutLonger]
  cases blank : allBlank piece with
  | true =>
    have stillBlank : allBlank (piece ++ ['\r']) = true := by
      rw [allBlank, List.all_append, Bool.and_eq_true]
      exact ⟨blank, rfl⟩
    simp only [List.filter_append, List.filter_singleton, blank, stillBlank, Bool.not_true,
      cond_false]
    exact .same _
  | false =>
    have stillShows : allBlank (piece ++ ['\r']) = false := by
      rw [allBlank, List.all_append, Bool.and_eq_false_iff]
      exact .inl blank
    simp only [List.filter_append, List.filter_singleton, blank, stillShows, Bool.not_false,
      cond_true, List.map_append, List.map_singleton, String.ofList_append]
    refine .last _ ?_
    intro empty
    have noChars := congrArg String.toList empty
    rw [String.toList_ofList] at noChars
    rw [noChars] at blank
    cases blank

private theorem takeWhile_marks_concat (rest : List Char) :
    (rest ++ ['\r']).takeWhile (· == '#') = rest.takeWhile (· == '#') := by
  rw [List.takeWhile_append]
  split
  · next whole =>
    have same := (List.takeWhile_prefix (· == '#')).eq_of_length whole
    rw [same, List.takeWhile_cons_of_neg (by decide), List.append_nil]
  · rfl

private theorem dropWhile_marks_concat (rest : List Char) :
    (rest ++ ['\r']).dropWhile (· == '#') = rest.dropWhile (· == '#') ++ ['\r'] := by
  rw [List.dropWhile_append]
  split
  · next none =>
    rw [List.isEmpty_iff.mp none, List.dropWhile_cons_of_neg (by decide), List.nil_append]
  · rfl

/-- A carriage return behind a line is trimmed away, but for the last word of a header. -/
theorem returnedLine_concat (line : List Char) :
    ReturnedLine (Line.ofChars line) (Line.ofChars (line ++ ['\r'])) := by
  have longer : trimStart (line ++ ['\r']) =
      if (trimStart line).isEmpty then [] else trimStart line ++ ['\r'] :=
    List.dropWhile_append
  cases trimmed : trimStart line with
  | nil =>
    rw [trimmed] at longer
    rw [Line.ofChars, Line.ofChars, trimmed, longer]
    exact .same _
  | cons first rest =>
    rw [trimmed, List.isEmpty_cons, if_neg Bool.false_ne_true, List.cons_append] at longer
    by_cases mark : first = '#'
    · subst mark
      rw [ofChars_of_mark trimmed, ofChars_of_mark longer, takeWhile_marks_concat,
        dropWhile_marks_concat]
      exact .header _ (returnedWords_concat _)
    · have sameContent : trimEnd (first :: (rest ++ ['\r'])) = trimEnd (first :: rest) :=
        trimEnd_concat_blank (by decide) (first :: rest)
      rw [ofChars_of_text trimmed mark, ofChars_of_text longer mark, sameContent]
      exact .same _

private theorem returnedLine_ofChars {line other : List Char} (behind : ReturnBehind line other) :
    ReturnedLine (Line.ofChars line) (Line.ofChars other) := by
  rcases behind with rfl | rfl
  · exact .same _
  · exact returnedLine_concat line

theorem returnedParagraph_refl (paragraph : Paragraph) :
    ReturnedParagraph paragraph paragraph := by
  cases paragraph with
  | header level words => exact .header level (.same words)
  | regular words => exact .regular words

private theorem returnedParagraph_gather {lines others : List Line}
    (fit : List.Forall₂ ReturnedLine lines others) (gathered : List Char) :
    List.Forall₂ ReturnedParagraph (gather gathered lines) (gather gathered others) := by
  have closed : ∀ gathered, List.Forall₂ ReturnedParagraph (close gathered) (close gathered) :=
    fun gathered => List.forall₂_same.mpr fun paragraph _ => returnedParagraph_refl paragraph
  induction fit generalizing gathered with
  | nil => exact closed gathered
  | @cons line other lines others first later ih =>
    cases first with
    | same =>
      cases line with
      | blank => exact List.rel_append (closed gathered) (ih [])
      | header level words =>
        exact List.rel_append (closed gathered) (.cons (.header level (.same words)) (ih []))
      | text content => exact ih (extend gathered content)
    | header level alike =>
      exact List.rel_append (closed gathered) (.cons (.header level alike) (ih []))

private theorem returnedParagraph_read {text : String} (notContinues : ¬ Continues text.toList) :
    List.Forall₂ ReturnedParagraph (read text) (read (returned text)) := by
  unfold read returned
  rw [String.toList_ofList]
  apply returnedParagraph_gather
  rw [List.forall₂_map_left_iff, List.forall₂_map_right_iff]
  exact (returnBehind_logicalLines notContinues).imp fun _ _ => returnedLine_ofChars

def ReturnedTitle (title other : String) : Prop := other = title ∨ other = title ++ "\r"

private theorem titleOf?_of_ne {level : Nat} (notFirst : level ≠ 1) (words : List String) :
    Document.titleOf? (.header level words) = none := by
  unfold Document.titleOf?
  split
  · next isFirst =>
    cases isFirst
    exact absurd rfl notFirst
  · rfl

private theorem returnedTitle_titleOf? {paragraph other : Paragraph}
    (alike : ReturnedParagraph paragraph other) :
    Option.Rel ReturnedTitle (Document.titleOf? paragraph) (Document.titleOf? other) := by
  have same : ∀ title : Option String, Option.Rel ReturnedTitle title title := by
    intro title
    cases title with
    | none => exact .none
    | some title => exact .some (.inl rfl)
  cases alike with
  | regular words => exact same _
  | @header level words others alike =>
    by_cases isFirst : level = 1
    · subst isFirst
      cases alike with
      | same => exact same _
      | @last earlier word nonempty =>
        obtain ⟨before, joined⟩ := exists_intercalate_concat earlier
        have titled : ∀ word : String, word ≠ "" →
            Document.titleOf? (.header 1 (earlier ++ [word])) = some (before ++ word) := by
          intro word nonempty
          have shows : before ++ word ≠ "" :=
            fun empty => nonempty (String.append_eq_empty_iff.mp empty).2
          simp [Document.titleOf?, Paragraph.plainText, Paragraph.words, joined, shows]
        have longer : word ++ "\r" ≠ "" :=
          fun empty => nonempty (String.append_eq_empty_iff.mp empty).1
        rw [titled word nonempty, titled _ longer]
        exact .some (.inr String.append_assoc.symm)
    · rw [titleOf?_of_ne isFirst, titleOf?_of_ne isFirst]
      exact .none

private theorem returnedTitle_findSome? {paragraphs others : List Paragraph}
    (alike : List.Forall₂ ReturnedParagraph paragraphs others) :
    Option.Rel ReturnedTitle (paragraphs.findSome? Document.titleOf?)
      (others.findSome? Document.titleOf?) := by
  induction alike with
  | nil => exact .none
  | @cons paragraph other paragraphs others first later ih =>
    have title := returnedTitle_titleOf? first
    rw [List.findSome?_cons, List.findSome?_cons]
    generalize Document.titleOf? paragraph = offered at title
    generalize Document.titleOf? other = otherOffered at title
    cases title with
    | some alike => exact .some alike
    | none => exact ih

def backslashesOf (words : List String) : Nat := (words.flatMap String.toList).count '\\'

/-- What a line brings to its page, character by character. -/
def Line.chars : Line → List Char
  | .blank => []
  | .header _ words => words.flatMap String.toList
  | .text content => content

/-- How many backslashes the words of some paragraphs hold. -/
def backslashesIn (paragraphs : List Paragraph) : Nat :=
  backslashesOf (paragraphs.flatMap Paragraph.words)

theorem backslashesOf_append (words others : List String) :
    backslashesOf (words ++ others) = backslashesOf words + backslashesOf others := by
  rw [backslashesOf, List.flatMap_append, List.count_append, backslashesOf, backslashesOf]

theorem count_dropWhile {drops : Char → Bool} (stays : drops char = false) (text : List Char) :
    (text.dropWhile drops).count char = text.count char := by
  have dropped : (text.takeWhile drops).count char = 0 := by
    apply List.count_eq_zero.mpr
    intro member
    have passes := List.mem_takeWhile_imp member
    rw [stays] at passes
    cases passes
  have whole := congrArg (List.count char) (@List.takeWhile_append_dropWhile _ drops text)
  rw [List.count_append, dropped, Nat.zero_add] at whole
  exact whole

private theorem count_of_allBlank (blank : allBlank text = true) : text.count '\\' = 0 := by
  apply List.count_eq_zero.mpr
  intro member
  have isBlank := List.all_eq_true.mp blank '\\' member
  cases isBlank

private theorem backslashesOf_wordsOf (line : List Char) :
    backslashesOf (wordsOf line) = line.count '\\' := by
  have kept : ∀ pieces : List (List Char),
      backslashesOf ((pieces.filter fun piece => !allBlank piece).map String.ofList) =
        pieces.flatten.count '\\' := by
    intro pieces
    induction pieces with
    | nil => rfl
    | cons piece later ih =>
      rw [List.flatten_cons, List.count_append, ← ih]
      cases blank : allBlank piece with
      | true => rw [List.filter_cons_of_neg (by simp [blank]), count_of_allBlank blank, Nat.zero_add]
      | false =>
        rw [List.filter_cons_of_pos (by simp [blank]), List.map_cons, ← List.singleton_append,
          backslashesOf_append]
        simp [backslashesOf]
  rw [wordsOf, kept, flatten_pieces, List.count_filter (by decide)]

private theorem count_chars_ofChars (line : List Char) :
    (Line.ofChars line).chars.count '\\' = line.count '\\' := by
  have trimmedCount : (trimStart line).count '\\' = line.count '\\' :=
    count_dropWhile (by decide) line
  cases trimmed : trimStart line with
  | nil =>
    rw [← trimmedCount, Line.ofChars, trimmed]
    rfl
  | cons first rest =>
    rw [← trimmedCount, trimmed]
    by_cases mark : first = '#'
    · subst mark
      have behind := backslashesOf_wordsOf (rest.dropWhile (· == '#'))
      rw [backslashesOf] at behind
      rw [ofChars_of_mark trimmed, Line.chars, behind, count_dropWhile (by decide),
        List.count_cons_of_ne (by decide)]
    · rw [ofChars_of_text trimmed mark, Line.chars, trimEnd, List.count_reverse,
        count_dropWhile (by decide), List.count_reverse]

private theorem count_chars_lines (lines : List (List Char)) :
    ((lines.map Line.ofChars).flatMap Line.chars).count '\\' = lines.flatten.count '\\' := by
  induction lines with
  | nil => rfl
  | cons line later ih =>
    rw [List.map_cons, List.flatMap_cons, List.count_append, count_chars_ofChars, ih,
      List.flatten_cons, List.count_append]

theorem backslashesIn_append (paragraphs later : List Paragraph) :
    backslashesIn (paragraphs ++ later) = backslashesIn paragraphs + backslashesIn later := by
  rw [backslashesIn, List.flatMap_append, backslashesOf_append, backslashesIn, backslashesIn]

theorem backslashesIn_close (gathered : List Char) :
    backslashesIn (close gathered) = gathered.count '\\' := by
  unfold close
  split
  · next blank => exact (count_of_allBlank blank).symm
  · rw [← backslashesOf_wordsOf, backslashesIn, List.flatMap_singleton, Paragraph.words]

private theorem count_extend (gathered content : List Char) :
    (extend gathered content).count '\\' = gathered.count '\\' + content.count '\\' := by
  unfold extend
  split
  · next none => rw [List.isEmpty_iff.mp none, List.count_nil, Nat.zero_add]
  · rw [List.count_append, List.count_cons_of_ne (by decide)]

private theorem backslashesIn_gather (gathered : List Char) (lines : List Line) :
    backslashesIn (gather gathered lines) =
      gathered.count '\\' + (lines.flatMap Line.chars).count '\\' := by
  induction lines generalizing gathered with
  | nil => exact backslashesIn_close gathered
  | cons line later ih =>
    rw [List.flatMap_cons, List.count_append]
    cases line with
    | blank =>
      rw [gather, backslashesIn_append, backslashesIn_close, ih, Line.chars, List.count_nil]
    | header level words =>
      have header : backslashesIn [.header level words] =
          (Line.header level words).chars.count '\\' := by
        rw [backslashesIn, List.flatMap_singleton, Paragraph.words, backslashesOf, Line.chars]
      rw [gather, ← List.singleton_append, backslashesIn_append, backslashesIn_append,
        backslashesIn_close, header, ih, List.count_nil, Nat.zero_add]
    | text content =>
      rw [gather, ih, count_extend, Line.chars, Nat.add_assoc]

private theorem flatten_logicalLines (text : List Char) :
    (logicalLines text).flatten = (unbroken text).filter (· != '\n') := by
  rw [← flatten_pieces, pieces_eq_splitOn]
  rcases splitOn_unbroken text with same | trailing
  · rw [same]
  · rw [trailing, List.flatten_append, List.flatten_singleton, List.append_nil]

/-- Reading loses the backslashes of continued lines, and no others. -/
theorem backslashesIn_read (text : String) :
    backslashesIn (read text) = (unbroken text.toList).count '\\' := by
  rw [read, backslashesIn_gather, List.count_nil, Nat.zero_add, count_chars_lines,
    flatten_logicalLines, List.count_filter (by decide)]

private theorem backslashesOf_returned (alike : ReturnedWords words others) :
    backslashesOf others = backslashesOf words := by
  cases alike with
  | same => rfl
  | last earlier nonempty =>
    rw [backslashesOf_append, backslashesOf_append]
    simp [backslashesOf]

private theorem backslashesIn_returned {paragraphs others : List Paragraph}
    (alike : List.Forall₂ ReturnedParagraph paragraphs others) :
    backslashesIn others = backslashesIn paragraphs := by
  induction alike with
  | nil => rfl
  | cons first later ih =>
    unfold backslashesIn at ih ⊢
    rw [List.flatMap_cons, List.flatMap_cons, backslashesOf_append, backslashesOf_append, ih]
    cases first with
    | regular words => rfl
    | header level alike => rw [Paragraph.words, Paragraph.words, backslashesOf_returned alike]

private theorem unbroken_withReturns_lineBreak (rest : List Char) :
    unbroken ('\r' :: '\n' :: withReturns rest) =
      '\r' :: '\n' :: unbroken (withReturns rest) := by
  rw [unbroken_cons fun backslash => absurd backslash (by decide),
    unbroken_cons fun backslash => absurd backslash (by decide)]

private theorem continues_of_cons (stays : Stays char rest) (continues : Continues (char :: rest)) :
    Continues rest := by
  rcases List.infix_cons_iff.mp continues with ⟨later, atStart⟩ | inRest
  · obtain ⟨backslash, lineBreak⟩ := List.cons.inj atStart
    exact absurd lineBreak.symm ((stays backslash.symm).2 later)
  · exact inRest

/-- With a carriage return before the break no line is continued, so that a text that continues lines
keeps more backslashes. -/
theorem count_unbroken_withReturns (text : List Char) :
    (unbroken text).count '\\' ≤ (unbroken (withReturns text)).count '\\' ∧
      (Continues text → (unbroken text).count '\\' < (unbroken (withReturns text)).count '\\') := by
  induction text using unbroken.induct with
  | case1 => exact ⟨Nat.le_refl _, fun continues => absurd continues (by decide)⟩
  | case2 => exact ⟨Nat.le_refl _, fun continues => absurd continues (by decide)⟩
  | case3 rest ih =>
    have kept : unbroken (withReturns ('\\' :: '\n' :: rest)) =
        '\\' :: '\r' :: '\n' :: unbroken (withReturns rest) := by
      rw [withReturns_cons_of_ne (by decide), withReturns_lineBreak, unbroken_cons,
        unbroken_withReturns_lineBreak]
      refine fun _ => ⟨List.cons_ne_nil _ _, ?_⟩
      intro later same
      exact absurd (List.cons.inj same).1 (by decide)
    rw [kept, unbroken, List.count_cons_self, List.count_cons_of_ne (by decide),
      List.count_cons_of_ne (by decide)]
    have fewer := ih.1
    exact ⟨by omega, fun _ => by omega⟩
  | case4 char rest notEnd notContinued ih =>
    have stays : Stays char rest := fun backslash =>
      ⟨notEnd backslash, fun later => notContinued later backslash⟩
    have inRest := continues_of_cons stays
    rw [unbroken_cons stays]
    by_cases lineBreak : char = '\n'
    · subst lineBreak
      rw [withReturns_lineBreak, unbroken_withReturns_lineBreak, List.count_cons_of_ne (by decide),
        List.count_cons_of_ne (by decide), List.count_cons_of_ne (by decide)]
      exact ⟨ih.1, fun continues => ih.2 (inRest continues)⟩
    · rw [withReturns_cons_of_ne lineBreak, unbroken_cons (stays_withReturns stays),
        List.count_cons, List.count_cons]
      refine ⟨Nat.add_le_add_right ih.1 _, ?_⟩
      intro continues
      exact Nat.add_lt_add_right (ih.2 (inRest continues)) _

/-- Carriage returns before the line breaks change nothing but the last words of headers, behind which
one may stay, exactly where no backslash stands right before a line break. Then the title too is the
same or has a carriage return behind it. -/
theorem read_returned (text : String) :
    (List.Forall₂ ReturnedParagraph (read text) (read (returned text)) ↔
        ¬ Continues text.toList) ∧
      (¬ Continues text.toList →
        Option.Rel ReturnedTitle (Document.ofMarkup text).title
          (Document.ofMarkup (returned text)).title) := by
  refine ⟨⟨?_, returnedParagraph_read⟩, ?_⟩
  · intro alike continues
    have sameCount := backslashesIn_returned alike
    rw [backslashesIn_read, backslashesIn_read, returned, String.toList_ofList] at sameCount
    exact Nat.ne_of_lt ((count_unbroken_withReturns text.toList).2 continues) sameCount.symm
  · intro notContinues
    dsimp only [Document.ofMarkup]
    exact returnedTitle_findSome? (returnedParagraph_read notContinues)

theorem read_returned_headerPage :
    ¬ Continues "# A\nb".toList ∧
      List.Forall₂ ReturnedParagraph (read "# A\nb") (read (returned "# A\nb")) ∧
      Option.Rel ReturnedTitle (Document.ofMarkup "# A\nb").title
        (Document.ofMarkup (returned "# A\nb")).title := by
  have notContinues : ¬ Continues "# A\nb".toList := by decide
  obtain ⟨alike, title⟩ := read_returned "# A\nb"
  exact ⟨notContinues, alike.mpr notContinues, title notContinues⟩

def continuedPage : String := "# A\na\\\nb"

/-- A carriage return stays behind the word of the header, and the line is not continued any more. -/
theorem read_returned_continuedPage :
    '\r' ∉ continuedPage.toList ∧
      read continuedPage = [.header 1 ["A"], .regular ["ab"]] ∧
      read (returned continuedPage) = [.header 1 ["A\r"], .regular ["a\\", "b"]] ∧
      read (returned continuedPage) ≠ read continuedPage ∧
      (Document.ofMarkup (returned continuedPage)).title ≠
        (Document.ofMarkup continuedPage).title := by
  decide +kernel

end Handbook.Markup
