import Mathlib.Data.List.DropRight
import Handbook.Text.Blank

namespace Handbook.Text

theorem pieces_cons_of_ne {separator char : Char} (different : char ≠ separator)
    (rest : List Char) :
    pieces separator (char :: rest) = (pieces separator rest).modifyHead (List.cons char) := by
  simp only [pieces, List.foldr_cons, if_neg different]
  split
  · next none => exact absurd none (pieces_ne_nil separator rest)
  · next found => rw [found, List.modifyHead_cons]

theorem pieces_eq_splitOn (separator : Char) (text : List Char) :
    pieces separator text = text.splitOn separator := by
  induction text with
  | nil => simp
  | cons char rest ih =>
    rw [List.splitOn_cons_eq_if_modifyHead, ← ih]
    by_cases same : char = separator
    · rw [same, pieces_cons_separator, if_pos (beq_self_eq_true separator)]
    · rw [pieces_cons_of_ne same, if_neg (by simpa using same)]

theorem pieces_append_cons (separator : Char) (before after : List Char) :
    pieces separator (before ++ separator :: after) =
      pieces separator before ++ pieces separator after := by
  simp only [pieces_eq_splitOn, List.splitOn_append_cons_self]

theorem pieces_of_not_mem {separator : Char} {text : List Char} (absent : separator ∉ text) :
    pieces separator text = [text] := by
  rw [pieces_eq_splitOn, List.splitOn_eq_singleton absent]

/-- The first piece of a text that does not start with the separator starts as the text does. -/
theorem exists_pieces_cons {separator char : Char} (different : char ≠ separator)
    (rest : List Char) :
    ∃ piece later, pieces separator (char :: rest) = (char :: piece) :: later := by
  obtain ⟨piece, later, cut⟩ := List.exists_cons_of_ne_nil (pieces_ne_nil separator rest)
  exact ⟨piece, later, by rw [pieces_cons_of_ne different, cut, List.modifyHead_cons]⟩

/-- A character behind a text that is not the separator goes to the last piece. -/
theorem exists_pieces_concat {separator char : Char} (different : char ≠ separator)
    (before : List Char) :
    ∃ earlier piece, pieces separator before = earlier ++ [piece] ∧
      pieces separator (before ++ [char]) = earlier ++ [piece ++ [char]] := by
  induction before with
  | nil =>
    refine ⟨[], [], rfl, pieces_of_not_mem ?_⟩
    simpa using different.symm
  | cons first rest ih =>
    obtain ⟨earlier, piece, cut, cutLonger⟩ := ih
    rw [List.cons_append]
    by_cases same : first = separator
    · refine ⟨[] :: earlier, piece, ?_, ?_⟩
      · rw [same, pieces_cons_separator, cut, List.cons_append]
      · rw [same, pieces_cons_separator, cutLonger, List.cons_append]
    · rw [pieces_cons_of_ne same, pieces_cons_of_ne same, cut, cutLonger]
      cases earlier with
      | nil => exact ⟨[], first :: piece, rfl, rfl⟩
      | cons head tail => exact ⟨(first :: head) :: tail, piece, rfl, rfl⟩

theorem flatten_pieces (separator : Char) (text : List Char) :
    (pieces separator text).flatten = text.filter (· != separator) := by
  induction text with
  | nil => rfl
  | cons char rest ih =>
    by_cases same : char = separator
    · rw [same, pieces_cons_separator, List.flatten_cons, List.nil_append, ih,
        List.filter_cons_of_neg (by simp)]
    · obtain ⟨piece, later, cut⟩ := List.exists_cons_of_ne_nil (pieces_ne_nil separator rest)
      rw [pieces_cons_of_ne same, List.filter_cons_of_pos (by simpa using same), ← ih, cut]
      rfl

theorem mem_pieces {separator : Char} {text piece : List Char}
    (member : piece ∈ pieces separator text) :
    separator ∉ piece ∧ ∀ char ∈ piece, char ∈ text := by
  induction text generalizing piece with
  | nil =>
    rw [pieces_nil, List.mem_singleton] at member
    simp [member]
  | cons first rest ih =>
    by_cases same : first = separator
    · rw [same, pieces_cons_separator] at member
      rcases List.mem_cons.mp member with rfl | inRest
      · simp
      · obtain ⟨absent, within⟩ := ih inRest
        exact ⟨absent, fun char found => List.mem_cons_of_mem _ (within char found)⟩
    · obtain ⟨head, tail, cut⟩ := List.exists_cons_of_ne_nil (pieces_ne_nil separator rest)
      rw [pieces_cons_of_ne same, cut, List.modifyHead_cons] at member
      rcases List.mem_cons.mp member with rfl | inTail
      · obtain ⟨absent, within⟩ := ih (cut ▸ List.mem_cons_self ..)
        constructor
        · simpa [Ne.symm same] using absent
        · intro char found
          rcases List.mem_cons.mp found with rfl | inHead
          · exact List.mem_cons_self ..
          · exact List.mem_cons_of_mem _ (within char inHead)
      · obtain ⟨absent, within⟩ := ih (cut ▸ List.mem_cons_of_mem _ inTail)
        exact ⟨absent, fun char found => List.mem_cons_of_mem _ (within char found)⟩

theorem exists_piece_of_mem {separator char : Char} {text : List Char} (member : char ∈ text)
    (different : char ≠ separator) : ∃ piece ∈ pieces separator text, char ∈ piece := by
  induction text with
  | nil => cases member
  | cons first rest ih =>
    by_cases same : first = separator
    · have inRest : char ∈ rest := (List.mem_cons.mp member).resolve_left (same ▸ different)
      obtain ⟨piece, inPieces, found⟩ := ih inRest
      rw [same, pieces_cons_separator]
      exact ⟨piece, List.mem_cons_of_mem _ inPieces, found⟩
    · obtain ⟨head, tail, cut⟩ := List.exists_cons_of_ne_nil (pieces_ne_nil separator rest)
      rw [pieces_cons_of_ne same, cut, List.modifyHead_cons]
      rcases List.mem_cons.mp member with rfl | inRest
      · exact ⟨_, List.mem_cons_self .., List.mem_cons_self ..⟩
      · obtain ⟨piece, inPieces, found⟩ := ih inRest
        rw [cut] at inPieces
        rcases List.mem_cons.mp inPieces with rfl | inTail
        · exact ⟨_, List.mem_cons_self .., List.mem_cons_of_mem _ found⟩
        · exact ⟨piece, List.mem_cons_of_mem _ inTail, found⟩

end Handbook.Text
