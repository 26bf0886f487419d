import Handbook.Markup.Reading
import Handbook.Proofs.Text.Pieces

/-!
Lines after continuation. Joining the lines that end in a backslash agrees with one pass over the
characters that deletes every continued line break together with its backslash; an empty line at the
end of the text is the only difference.
-/

namespace Handbook.Markup

open Text

/-- The text without its continued line breaks: in one pass from left to right a backslash before a
line break goes with the break, and a backslash at the end of the text goes alone. -/
def unbroken : List Char → List Char
  | [] => []
  | ['\\'] => []
  | '\\' :: '\n' :: rest => unbroken rest
  | char :: rest => char :: unbroken rest

/-- Puts a character before the first line. -/
def lead (char : Char) : List (List Char) → List (List Char)
  | [] => [[char]]
  | line :: later => (char :: line) :: later

/-- The character does not continue a line: it is no backslash, or something other than a line break
follows. -/
def Stays (char : Char) (rest : List Char) : Prop :=
  char = '\\' → rest ≠ [] ∧ ∀ later, rest ≠ '\n' :: later

theorem unbroken_cons {char : Char} {rest : List Char} (stays : Stays char rest) :
    unbroken (char :: rest) = char :: unbroken rest :=
  unbroken.eq_4 char rest (fun backslash => (stays backslash).1)
    fun later backslash => (stays backslash).2 later

theorem joinContinued_cons (line : List Char) (later : List (List Char)) :
    joinContinued (line :: later) =
      if line.getLast? = some '\\' then
        match joinContinued later with
        | [] => if line.dropLast.isEmpty then [] else [line.dropLast]
        | next :: rest => (line.dropLast ++ next) :: rest
      else line :: joinContinued later := rfl

theorem logicalLines_lineBreak (rest : List Char) :
    logicalLines ('\n' :: rest) = [] :: logicalLines rest := by
  rw [logicalLines, pieces_cons_separator, joinContinued_cons]
  rfl

private theorem logicalLines_continued (rest : List Char) :
    logicalLines ('\\' :: '\n' :: rest) = logicalLines rest := by
  have cut : pieces '\n' ('\\' :: '\n' :: rest) = ['\\'] :: pieces '\n' rest := by
    rw [pieces_cons_of_ne (by decide), pieces_cons_separator, List.modifyHead_cons]
  rw [logicalLines, cut, joinContinued_cons, if_pos List.getLast?_singleton, logicalLines]
  cases joinContinued (pieces '\n' rest) <;> rfl

/-- A line that holds more than a character reads the same behind the character. -/
theorem joinContinued_lead (char : Char) (line : List Char) (later : List (List Char))
    (stays : line = [] → char ≠ '\\') :
    joinContinued ((char :: line) :: later) = lead char (joinContinued (line :: later)) := by
  cases line with
  | nil => simp [joinContinued_cons, stays rfl, lead]
  | cons first rest =>
    simp only [joinContinued_cons, List.getLast?_cons_cons, List.dropLast_cons_cons]
    split
    · cases joinContinued later with
      | nil =>
        simp only [List.isEmpty_cons, Bool.false_eq_true, if_false]
        split
        · next empty => rw [List.isEmpty_iff.mp empty, lead]
        · rfl
      | cons next more => rfl
    · rfl

theorem logicalLines_cons {char : Char} {rest : List Char} (inLine : char ≠ '\n')
    (stays : Stays char rest) :
    logicalLines (char :: rest) = lead char (logicalLines rest) := by
  obtain ⟨line, later, cut⟩ := List.exists_cons_of_ne_nil (pieces_ne_nil '\n' rest)
  rw [logicalLines, logicalLines, pieces_cons_of_ne inLine, cut, List.modifyHead_cons]
  apply joinContinued_lead
  intro empty backslash
  obtain ⟨nonempty, noBreak⟩ := stays backslash
  cases rest with
  | nil => exact nonempty rfl
  | cons first more =>
    by_cases same : first = '\n'
    · exact noBreak more (same ▸ rfl)
    · obtain ⟨piece, others, cutMore⟩ := exists_pieces_cons same more
      rw [cutMore] at cut
      rw [← (List.cons.inj cut).1] at empty
      cases empty

private theorem splitOn_cons_of_ne {char : Char} (inLine : char ≠ '\n') (rest : List Char) :
    (char :: rest).splitOn '\n' = lead char (rest.splitOn '\n') := by
  rw [List.splitOn_cons_eq_if_modifyHead, if_neg (by simpa using inLine)]
  obtain ⟨line, later, cut⟩ := List.exists_cons_of_ne_nil (List.splitOn_ne_nil '\n' rest)
  rw [cut, List.modifyHead_cons, lead]

/-- Deleting the continued line breaks and cutting at the others gives the logical lines, up to an
empty line at the end. -/
theorem splitOn_unbroken (text : List Char) :
    (unbroken text).splitOn '\n' = logicalLines text ∨
      (unbroken text).splitOn '\n' = logicalLines text ++ [[]] := by
  induction text using unbroken.induct with
  | case1 => exact .inl rfl
  | case2 => exact .inr rfl
  | case3 rest ih =>
    rw [unbroken, logicalLines_continued]
    exact ih
  | case4 char rest notEnd notContinued ih =>
    have stays : Stays char rest := fun backslash =>
      ⟨notEnd backslash, fun later => notContinued later backslash⟩
    rw [unbroken_cons stays]
    by_cases lineBreak : char = '\n'
    · subst char
      rw [logicalLines_lineBreak, List.splitOn_cons_eq_if_modifyHead, if_pos (beq_self_eq_true _)]
      rcases ih with same | trailing
      · exact .inl (same ▸ rfl)
      · exact .inr (trailing ▸ rfl)
    · rw [splitOn_cons_of_ne lineBreak, logicalLines_cons lineBreak stays]
      rcases ih with same | trailing
      · exact .inl (same ▸ rfl)
      · rw [trailing]
        cases logicalLines rest with
        | nil => exact .inl rfl
        | cons line later => exact .inr rfl

end Handbook.Markup
