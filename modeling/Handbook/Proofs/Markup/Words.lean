import Handbook.Markup.Reading
import Handbook.Proofs.Text.Pieces

namespace Handbook.Text

/-- Trimming the end leaves a character that is not blank where it is. -/
theorem trimEnd_cons {first : Char} (solid : isBlank first = false) (rest : List Char) :
    trimEnd (first :: rest) = first :: trimEnd rest := by
  simp only [trimEnd, List.reverse_cons, List.dropWhile_append, List.dropWhile_cons, solid]
  split
  · next none => rw [List.isEmpty_iff.mp none]; rfl
  · simp

theorem trimEnd_concat_blank {last : Char} (blank : isBlank last = true) (text : List Char) :
    trimEnd (text ++ [last]) = trimEnd text := by
  simp [trimEnd, blank]

theorem trimEnd_concat_solid {last : Char} (solid : isBlank last = false) (text : List Char) :
    trimEnd (text ++ [last]) = text ++ [last] := by
  simp [trimEnd, solid]

/-- A text with its end trimmed away ends in a character that is not blank. -/
theorem exists_trimEnd_concat {text : List Char} (some : trimEnd text ≠ []) :
    ∃ before last, trimEnd text = before ++ [last] ∧ isBlank last = false := by
  have solid := List.rdropWhile_last_not isBlank text some
  exact ⟨(trimEnd text).dropLast, (trimEnd text).getLast some,
    (List.dropLast_append_getLast some).symm, Bool.eq_false_iff.mpr solid⟩

theorem not_blank_of_trimStart {text rest : List Char} {first : Char}
    (trimmed : trimStart text = first :: rest) : isBlank first = false := by
  have solid := List.head?_dropWhile_not isBlank text
  unfold trimStart at trimmed
  rw [trimmed] at solid
  exact solid

end Handbook.Text

namespace Handbook.Markup

open Text

private theorem ne_space_of_not_blank {char : Char} (solid : isBlank char = false) :
    char ≠ ' ' := by
  rintro rfl
  cases solid

@[simp]
theorem wordsOf_nil : wordsOf [] = [] := rfl

theorem wordsOf_append_space (before after : List Char) :
    wordsOf (before ++ ' ' :: after) = wordsOf before ++ wordsOf after := by
  simp only [wordsOf, pieces_append_cons, List.filter_append, List.map_append]

theorem wordsOf_eq_nil_iff {line : List Char} : wordsOf line = [] ↔ allBlank line = true := by
  simp only [wordsOf, List.map_eq_nil_iff, List.filter_eq_nil_iff, Bool.not_eq_true, allBlank,
    Bool.not_eq_false', List.all_eq_true]
  constructor
  · intro every char member
    by_cases space : char = ' '
    · subst space
      rfl
    · obtain ⟨piece, inPieces, found⟩ := exists_piece_of_mem member space
      exact every piece inPieces char found
  · intro every piece inPieces char found
    exact every char ((mem_pieces inPieces).2 char found)

theorem wordsOf_extend (gathered content : List Char) :
    wordsOf (extend gathered content) = wordsOf gathered ++ wordsOf content := by
  unfold extend
  split
  · next empty => rw [List.isEmpty_iff.mp empty, wordsOf_nil, List.nil_append]
  · exact wordsOf_append_space gathered content

theorem close_eq (gathered : List Char) :
    close gathered = if wordsOf gathered = [] then [] else [.regular (wordsOf gathered)] := by
  simp only [close, wordsOf_eq_nil_iff]

theorem exists_wordsOf_cons {first : Char} (solid : isBlank first = false) (rest : List Char) :
    ∃ piece later, wordsOf (first :: rest) = String.ofList (first :: piece) :: later := by
  obtain ⟨piece, others, cut⟩ := exists_pieces_cons (ne_space_of_not_blank solid) rest
  exact ⟨piece, _, by simp [wordsOf, cut, allBlank, solid]; rfl⟩

theorem exists_wordsOf_concat {last : Char} (solid : isBlank last = false) (before : List Char) :
    ∃ earlier piece, wordsOf (before ++ [last]) = earlier ++ [String.ofList (piece ++ [last])] := by
  obtain ⟨others, piece, -, cut⟩ := exists_pieces_concat (ne_space_of_not_blank solid) before
  exact ⟨_, piece, by simp [wordsOf, cut, allBlank, solid]; rfl⟩

theorem ofChars_of_mark {line rest : List Char} (trimmed : trimStart line = '#' :: rest) :
    Line.ofChars line =
      .header (1 + (rest.takeWhile (· == '#')).length) (wordsOf (rest.dropWhile (· == '#'))) := by
  simp only [Line.ofChars, trimmed]

theorem ofChars_of_text {line rest : List Char} {first : Char}
    (trimmed : trimStart line = first :: rest) (noMark : first ≠ '#') :
    Line.ofChars line = .text (trimEnd (first :: rest)) := by
  rw [Line.ofChars, trimmed]
  split
  · next none => cases none
  · next marked => exact absurd (List.cons.inj marked).1 noMark
  · next same => rw [same]

/-- What stands between spaces on a line: neither spaces nor line breaks, and something that shows. -/
structure IsWord (word : String) : Prop where
  noSpace : ' ' ∉ word.toList
  noBreak : '\n' ∉ word.toList
  notBlank : allBlank word.toList = false

theorem isWord_of_mem_wordsOf {line : List Char} (oneLine : '\n' ∉ line) {word : String}
    (member : word ∈ wordsOf line) : IsWord word := by
  obtain ⟨piece, kept, rfl⟩ := List.mem_map.mp member
  obtain ⟨inPieces, shows⟩ := List.mem_filter.mp kept
  obtain ⟨noSpace, within⟩ := mem_pieces inPieces
  constructor <;> rw [String.toList_ofList]
  · exact noSpace
  · exact fun lineBreak => oneLine (within _ lineBreak)
  · simpa using shows

private theorem wordsOf_word {word : String} (isWord : IsWord word) :
    wordsOf word.toList = [word] := by
  simp [wordsOf, pieces_of_not_mem isWord.noSpace, isWord.notBlank]

/-- The last of some words stands at the end when they are joined. -/
theorem exists_intercalate_concat (earlier : List String) :
    ∃ before, ∀ word, " ".intercalate (earlier ++ [word]) = before ++ word := by
  cases earlier with
  | nil => exact ⟨"", by simp⟩
  | cons first rest =>
    refine ⟨" ".intercalate (first :: rest) ++ " ", ?_⟩
    intro word
    rw [String.intercalate_append_of_ne_nil (List.cons_ne_nil first rest)
      (List.cons_ne_nil word []), String.intercalate_singleton]

theorem wordsOf_intercalate {words : List String} (every : ∀ word ∈ words, IsWord word) :
    wordsOf (" ".intercalate words).toList = words := by
  induction words with
  | nil => rfl
  | cons word later ih =>
    have first := wordsOf_word (every word (List.mem_cons_self ..))
    cases later with
    | nil => simpa using first
    | cons next more =>
      have rest := ih fun other member => every other (List.mem_cons_of_mem _ member)
      have joined : (" ".intercalate (word :: next :: more)).toList =
          word.toList ++ ' ' :: (" ".intercalate (next :: more)).toList := by
        simp [String.intercalate_cons_cons]
      rw [joined, wordsOf_append_space, first, rest, List.singleton_append]

end Handbook.Markup
