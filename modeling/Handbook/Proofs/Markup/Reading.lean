import Mathlib.Data.List.SplitBy
import Mathlib.Data.List.TakeWhile
import Handbook.Proofs.Markup.Lines
import Handbook.Proofs.Markup.Words

namespace Handbook.Markup

open Text

/-- What a line is, told by its first character that is not blank. -/
inductive LineKind where
  | blank
  | header
  | text
deriving DecidableEq

def kindOf (line : List Char) : LineKind :=
  match line.find? fun char => !isBlank char with
  | none => .blank
  | some char => if char = '#' then .header else .text

/-- The pieces of a line between spaces that are not blank. -/
def spacedWords (line : List Char) : List String :=
  ((line.splitOn ' ').filter fun piece => piece.any fun char => !isBlank char).map String.ofList

/-- The header of a line: as many levels as `#` marks before the first other character. -/
def headerOf (line : List Char) : Paragraph :=
  let trimmed := line.dropWhile isBlank
  .header (trimmed.takeWhile (· == '#')).length (spacedWords (trimmed.dropWhile (· == '#')))

/-- The words of a text line without the blanks at its ends. -/
def textWords (line : List Char) : List String :=
  spacedWords ((line.dropWhile isBlank).rdropWhile isBlank)

/-- What a run of lines stands for. -/
def ofRun : List (List Char) → List Paragraph
  | [] => []
  | line :: later =>
    match kindOf line with
    | .blank => []
    | .header => [headerOf line]
    | .text => [.regular ((line :: later).flatMap textWords)]

/-- Both lines are text, so that they belong to one paragraph when they are neighbours. -/
def together (first second : List Char) : Bool :=
  decide (kindOf first = .text) && decide (kindOf second = .text)

/-- The paragraphs of a text, run by run. -/
def byRuns (text : String) : List Paragraph :=
  (((unbroken text.toList).splitOn '\n').splitBy together).flatMap ofRun

theorem wordsOf_eq_spacedWords (line : List Char) : wordsOf line = spacedWords line := by
  simp only [wordsOf, spacedWords, pieces_eq_splitOn, allBlank, List.not_all_eq_any_not]

private theorem ofChars_eq (line : List Char) :
    Line.ofChars line =
      match kindOf line with
      | .blank => .blank
      | .header =>
        .header ((line.dropWhile isBlank).takeWhile (· == '#')).length
          (spacedWords ((line.dropWhile isBlank).dropWhile (· == '#')))
      | .text => .text ((line.dropWhile isBlank).rdropWhile isBlank) := by
  unfold Line.ofChars kindOf trimStart
  rw [List.find?_not_eq_head?_dropWhile]
  cases line.dropWhile isBlank with
  | nil => rfl
  | cons char rest =>
    by_cases mark : char = '#'
    · subst char
      simp [wordsOf_eq_spacedWords, Nat.add_comm]
    · simp only [List.head?_cons, mark, if_false]
      rfl

/-- A blank line closes what is gathered, and nothing is at hand behind it. -/
theorem gather_append_blank_cons (lines : List Line) (gathered : List Char) (later : List Line) :
    gather gathered (lines ++ .blank :: later) = gather gathered lines ++ gather [] later := by
  induction lines generalizing gathered with
  | nil => rfl
  | cons line rest ih => cases line <;> simp [gather, ih]

private theorem gather_append_blank (lines : List Line) (gathered : List Char) :
    gather gathered (lines ++ [.blank]) = gather gathered lines := by
  rw [gather_append_blank_cons]
  exact List.append_nil _

private theorem textWords_ne_nil {line : List Char} (text : kindOf line = .text) :
    textWords line ≠ [] := by
  unfold kindOf at text
  rw [List.find?_not_eq_head?_dropWhile] at text
  cases trimmed : trimStart line with
  | nil =>
    rw [show line.dropWhile isBlank = [] from trimmed] at text
    cases text
  | cons first rest =>
    have solid := not_blank_of_trimStart trimmed
    have ends : (line.dropWhile isBlank).rdropWhile isBlank = first :: trimEnd rest := by
      rw [show line.dropWhile isBlank = first :: rest from trimmed]
      exact trimEnd_cons solid rest
    obtain ⟨piece, later, words⟩ := exists_wordsOf_cons solid (trimEnd rest)
    rw [textWords, ends, ← wordsOf_eq_spacedWords, words]
    exact List.cons_ne_nil _ _

private theorem splitBy_together_cons {line : List Char} (notText : kindOf line ≠ .text)
    (run later : List (List Char)) :
    (run ++ line :: later).splitBy together =
      run.splitBy together ++ [line] :: later.splitBy together := by
  have alone : (line :: later).splitBy together = [line] :: later.splitBy together :=
    List.splitBy_append (l := [line]) (by simp [together, notText])
  rw [List.splitBy_append_cons later (by simp [together, notText]), alone]

theorem flatMap_ofRun_splitBy {gathered : List Char} {run : List (List Char)}
    (text : ∀ line ∈ run, kindOf line = .text)
    (words : wordsOf gathered = run.flatMap textWords) :
    (run.splitBy together).flatMap ofRun = close gathered := by
  rw [close_eq, words]
  cases run with
  | nil => rfl
  | cons line later =>
    have isText := text line (List.mem_cons_self ..)
    have chain : (line :: later).IsChain fun first second => together first second = true := by
      apply List.Pairwise.isChain
      apply List.pairwise_of_forall_mem_list
      intro first inFirst second inSecond
      simp [together, text first inFirst, text second inSecond]
    have some : (line :: later).flatMap textWords ≠ [] := by
      simp [textWords_ne_nil isText]
    rw [List.splitBy_of_isChain (List.cons_ne_nil _ _) chain, if_neg some]
    simp [ofRun, isText]

/-- Gathering with the text of a run at hand agrees with reading run by run: only the words of the
text count, and those are the words of the run's lines. -/
theorem gather_eq_flatMap_ofRun {gathered : List Char} {run : List (List Char)}
    (text : ∀ line ∈ run, kindOf line = .text)
    (words : wordsOf gathered = run.flatMap textWords) (lines : List (List Char)) :
    gather gathered (lines.map Line.ofChars) =
      ((run ++ lines).splitBy together).flatMap ofRun := by
  induction lines generalizing gathered run with
  | nil => rw [List.append_nil, flatMap_ofRun_splitBy text words, List.map_nil, gather]
  | cons line later ih =>
    have next := @ih [] [] (by simp) rfl
    rw [List.nil_append] at next
    rw [List.map_cons, ofChars_eq]
    cases kind : kindOf line with
    | blank =>
      rw [splitBy_together_cons (by simp [kind]), List.flatMap_append, List.flatMap_cons,
        flatMap_ofRun_splitBy text words, ← next]
      simp [gather, ofRun, kind]
    | header =>
      rw [splitBy_together_cons (by simp [kind]), List.flatMap_append, List.flatMap_cons,
        flatMap_ofRun_splitBy text words, ← next]
      simp [gather, ofRun, kind, headerOf]
    | text =>
      have longer : ∀ other ∈ run ++ [line], kindOf other = .text := by
        intro other member
        rcases List.mem_append.mp member with inRun | isLine
        · exact text other inRun
        · rw [List.mem_singleton.mp isLine, kind]
      have more : wordsOf (extend gathered ((line.dropWhile isBlank).rdropWhile isBlank)) =
          (run ++ [line]).flatMap textWords := by
        rw [wordsOf_extend, words, List.flatMap_append, wordsOf_eq_spacedWords]
        simp [textWords]
      have step := ih longer more
      rw [List.append_assoc, List.singleton_append] at step
      exact step

/-- Reading a page text is reading it run by run. -/
theorem read_eq_byRuns (text : String) : read text = byRuns text := by
  have runs := @gather_eq_flatMap_ofRun [] [] (by simp) rfl
  simp only [List.nil_append] at runs
  unfold byRuns read
  rw [← runs]
  rcases splitOn_unbroken text.toList with same | trailing
  · rw [same]
  · rw [trailing, List.map_append]
    exact (gather_append_blank _ []).symm

end Handbook.Markup
