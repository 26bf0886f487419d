import Handbook.Proofs.Markup.Reading

namespace Handbook.Text

/-- The last piece of a text ends as the text does, unless the text ends with the separator. -/
theorem exists_last_piece (separator : Char) (text : List Char) :
    ∃ earlier piece, pieces separator text = earlier ++ [piece] ∧
      ∀ last ∈ piece.getLast?, text.getLast? = some last := by
  rcases List.eq_nil_or_concat' text with rfl | ⟨before, char, rfl⟩
  · exact ⟨[], [], rfl, fun _ => nofun⟩
  · by_cases same : char = separator
    · subst same
      exact ⟨pieces char before, [], pieces_append_cons char before [], fun _ => nofun⟩
    · obtain ⟨earlier, piece, -, cut⟩ := exists_pieces_concat same before
      refine ⟨earlier, piece ++ [char], cut, fun last isLast => ?_⟩
      rwa [List.getLast?_concat] at isLast ⊢

end Handbook.Text

namespace Handbook.Markup

open Text

variable {line : List Char} {before : List Char}

theorem joinContinued_cons_of_ne (ends : line.getLast? ≠ some '\\') (later : List (List Char)) :
    joinContinued (line :: later) = line :: joinContinued later := by
  rw [joinContinued_cons, if_neg ends]

private theorem joinContinued_concat_ne_nil (ends : line.getLast? ≠ some '\\')
    (earlier : List (List Char)) : joinContinued (earlier ++ [line]) ≠ [] := by
  induction earlier with
  | nil =>
    rw [List.nil_append, joinContinued_cons_of_ne ends]
    exact List.cons_ne_nil _ _
  | cons first rest ih =>
    rw [List.cons_append, joinContinued_cons]
    split
    · split
      · next none => exact absurd none ih
      · exact List.cons_ne_nil _ _
    · exact List.cons_ne_nil _ _

/-- Nothing runs on behind a line that does not end in a backslash. -/
theorem joinContinued_append (ends : line.getLast? ≠ some '\\') (earlier later : List (List Char)) :
    joinContinued (earlier ++ [line] ++ later) =
      joinContinued (earlier ++ [line]) ++ joinContinued later := by
  induction earlier with
  | nil =>
    rw [List.nil_append, List.singleton_append, joinContinued_cons_of_ne ends,
      joinContinued_cons_of_ne ends]
    rfl
  | cons first rest ih =>
    obtain ⟨next, more, joined⟩ :=
      List.exists_cons_of_ne_nil (joinContinued_concat_ne_nil ends rest)
    rw [List.cons_append, List.cons_append, joinContinued_cons, joinContinued_cons, ih, joined]
    split <;> rfl

private theorem logicalLines_append (ends : before.getLast? ≠ some '\\') (after : List Char) :
    logicalLines (before ++ '\n' :: after) = logicalLines before ++ logicalLines after := by
  obtain ⟨earlier, piece, cut, endsAlike⟩ := exists_last_piece '\n' before
  have closed : piece.getLast? ≠ some '\\' := fun backslash => ends (endsAlike _ backslash)
  rw [logicalLines, pieces_append_cons, cut, joinContinued_append closed, ← cut]
  rfl

/-- A text that does not end in a backslash is read on its own when a blank line follows it,
whatever stands behind that line. -/
theorem read_append (first second : String) (ends : first.toList.getLast? ≠ some '\\') :
    read (first ++ "\n\n" ++ second) = read first ++ read second := by
  have joined : (first ++ "\n\n" ++ second).toList =
      first.toList ++ '\n' :: '\n' :: second.toList := by
    simp
  rw [read, joined, logicalLines_append ends, logicalLines_lineBreak, List.map_append,
    List.map_cons]
  exact gather_append_blank_cons _ [] _

/-- A backslash at the end of the first text uses up the blank line. -/
example : read ("a\\" ++ "\n\n" ++ "b") = [.regular ["a", "b"]] := by decide

/-- A continued line on both sides, and a backslash at the end of all. -/
theorem read_append_continued :
    ("# A \\\nb\nc\\\nd".toList.getLast? ≠ some '\\') ∧
      read ("# A \\\nb\nc\\\nd" ++ "\n\n" ++ "\\\n#e\nf\\") =
        read "# A \\\nb\nc\\\nd" ++ read "\\\n#e\nf\\" ∧
      read "# A \\\nb\nc\\\nd" = [.header 1 ["A", "b"], .regular ["cd"]] ∧
      read "\\\n#e\nf\\" = [.header 1 ["e"], .regular ["f"]] := by
  have ends : "# A \\\nb\nc\\\nd".toList.getLast? ≠ some '\\' := by decide
  exact ⟨ends, read_append _ _ ends, by decide, by decide⟩

end Handbook.Markup
