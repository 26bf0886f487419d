import Handbook.Proofs.Tiling.Cutting

namespace Handbook.Span

/-- A run of a whole tile shows the tile from its start to its end; any other run shows a part of it
and not all. -/
def Shows (tile : Int) (span : Span) : Prop :=
  match span.kind with
  | .full => span.length.val = tile ∧ span.source.val = 0
  | .leading | .trailing => 0 < span.length.val ∧ span.length.val < tile

/-- So many leading runs, then so many whole tiles, then so many trailing runs. -/
structure Sequence (tile : Int) (leading fulls trailing : Nat) (spans : List Span) : Prop where
  kinds : spans.map kind = List.replicate leading .leading ++ List.replicate fulls .full ++
    List.replicate trailing .trailing
  shows : ∀ span ∈ spans, span.Shows tile

/-- The runs cut an axis: they come in sequence with at most one at either end, follow one another
from the first pixel to the last, and show the tile in the phase. -/
structure CutsAxis (extent tile phase : Int) (spans : List Span) : Prop where
  sequence : ∃ leading fulls trailing, leading ≤ 1 ∧ trailing ≤ 1 ∧
    Sequence tile leading fulls trailing spans
  follow : Follow 0 spans extent
  inPhase : ∀ span ∈ spans, InPhase tile phase span

variable {size : Int} {leading fulls more trailing count : Nat} {first second spans : List Span}

theorem Sequence.nil (tile : Int) : Sequence tile 0 0 0 [] := ⟨rfl, by simp⟩

theorem Sequence.append (before : Sequence size leading fulls 0 first)
    (behind : Sequence size 0 more trailing second) :
    Sequence size leading (fulls + more) trailing (first ++ second) := by
  refine ⟨?_, fun span member => ?_⟩
  · rw [List.map_append, before.kinds, behind.kinds, ← List.replicate_append_replicate]
    simp only [List.replicate_zero, List.append_nil, List.nil_append, List.append_assoc]
  · exact (List.mem_append.mp member).elim (before.shows span) (behind.shows span)

variable {extent tile lead length offset last phase : Px}

private theorem sequence_of_leading? (found : leading? tile lead length = some spans)
    (less : length.val < tile.val) : ∃ count ≤ 1, Sequence tile.val count 0 0 spans := by
  unfold leading? at found
  split at found
  · next positive =>
    obtain ⟨source, -, isRun⟩ := Option.bind_eq_some_iff.mp found
    cases isRun
    refine ⟨1, Nat.le_refl 1, rfl, fun span member => ?_⟩
    rw [List.mem_singleton] at member
    subst span
    exact ⟨positive, less⟩
  · cases found
    exact ⟨0, Nat.zero_le 1, Sequence.nil tile.val⟩

private theorem sequence_of_fulls? (found : fulls? tile count offset = some (spans, last)) :
    Sequence tile.val 0 count 0 spans := by
  induction count generalizing offset spans with
  | zero =>
    cases found
    exact Sequence.nil tile.val
  | succ count ih =>
    obtain ⟨next, -, tiles⟩ := Option.bind_eq_some_iff.mp found
    obtain ⟨⟨later, behind⟩, foundLater, isRun⟩ := Option.bind_eq_some_iff.mp tiles
    cases isRun
    obtain ⟨kinds, shows⟩ := ih foundLater
    refine ⟨?_, fun span member => ?_⟩
    · rw [List.map_cons, kinds]
      rfl
    · rcases List.mem_cons.mp member with rfl | inLater
      · exact ⟨rfl, rfl⟩
      · exact shows span inLater

private theorem sequence_of_following? (found : following? extent tile lead = some spans)
    (positive : 0 < tile.val) :
    ∃ fulls trailing, trailing ≤ 1 ∧ Sequence tile.val 0 fulls trailing spans := by
  obtain ⟨rest, -, tiles⟩ := Option.bind_eq_some_iff.mp found
  obtain ⟨⟨whole, behind⟩, foundWhole, remainder⟩ := Option.bind_eq_some_iff.mp tiles
  obtain ⟨left, isLeft, isRun⟩ := Option.bind_eq_some_iff.mp remainder
  cases isRun
  have less : left.val < tile.val := by
    rw [Px.fit?_eq_some_iff.mp isLeft]
    exact Int.emod_lt_of_pos _ positive
  have inWhole := sequence_of_fulls? foundWhole
  split
  · next some =>
    have start : Sequence tile.val 0 0 1 [⟨behind, left, 0, .trailing⟩] := by
      refine ⟨rfl, fun span member => ?_⟩
      rw [List.mem_singleton] at member
      subst span
      exact ⟨some, less⟩
    exact ⟨_, 1, Nat.le_refl 1, inWhole.append start⟩
  · exact ⟨_, 0, Nat.zero_le 1, inWhole.append (Sequence.nil tile.val)⟩

private theorem sequence_of_cut? (cut : cut? extent tile phase = some spans) :
    ∃ leading fulls trailing, leading ≤ 1 ∧ trailing ≤ 1 ∧
      Sequence tile.val leading fulls trailing spans := by
  unfold cut? at cut
  split at cut
  · cases cut
    exact ⟨0, 0, 0, Nat.zero_le 1, Nat.zero_le 1, Sequence.nil tile.val⟩
  · next guard =>
    have positive : 0 < tile.val := by
      simp only [Bool.or_eq_true, decide_eq_true_eq] at guard
      omega
    obtain ⟨lead, isLead, runs⟩ := Option.bind_eq_some_iff.mp cut
    have less : lead.val < tile.val := by
      rw [Px.fit?_eq_some_iff.mp isLead]
      exact Int.emod_lt_of_pos _ positive
    split at runs
    · next short =>
      obtain ⟨count, atMost, ends⟩ := sequence_of_leading? runs (Int.lt_of_le_of_lt short less)
      exact ⟨count, 0, 0, atMost, Nat.zero_le 1, ends⟩
    · obtain ⟨ends, foundEnds, rest⟩ := Option.bind_eq_some_iff.mp runs
      obtain ⟨later, foundLater, isRun⟩ := Option.bind_eq_some_iff.mp rest
      cases isRun
      obtain ⟨count, atMost, inEnds⟩ := sequence_of_leading? foundEnds less
      obtain ⟨fulls, trailing, atMostTrailing, inLater⟩ :=
        sequence_of_following? foundLater positive
      exact ⟨count, _, trailing, atMost, atMostTrailing, inEnds.append inLater⟩

/-- Without pixels on the axis or in the tile there is nothing to cut. -/
theorem cut?_eq_nil (phase : Px) (none : extent.val ≤ 0 ∨ tile.val ≤ 0) :
    cut? extent tile phase = some [] := by
  have guard : (extent.val ≤ 0 || tile.val ≤ 0) = true := by simpa using none
  rw [cut?, if_pos guard]

private theorem cut?_congr (extent : Px) {other : Px}
    (same : other.val ≡ phase.val [ZMOD tile.val]) :
    cut? extent tile other = cut? extent tile phase := by
  rw [cut?, cut?, same.eq]

/-- Every axis is cut into runs without leaving the pixel range. There are none exactly when the axis
or the tile has no pixel; otherwise they come in sequence, from the first pixel to the last and in
phase. Phases that agree modulo the tile give the same runs. -/
theorem runs_cut_axis (extent tile phase : Px) :
    ∃ spans, cut? extent tile phase = some spans ∧
      (spans = [] ↔ extent.val ≤ 0 ∨ tile.val ≤ 0) ∧
      (spans ≠ [] → CutsAxis extent.val tile.val phase.val spans) ∧
      ∀ other : Px, other.val ≡ phase.val [ZMOD tile.val] → cut? extent tile other = some spans := by
  by_cases none : extent.val ≤ 0 ∨ tile.val ≤ 0
  · have nothing := cut?_eq_nil phase none
    refine ⟨[], nothing, by simp [none], fun some => absurd rfl some, fun other same => ?_⟩
    rw [cut?_congr extent same, nothing]
  · obtain ⟨spans, cut, follow, onAxis⟩ :=
      exists_cut phase (by omega : 0 ≤ extent.val) (by omega : 0 < tile.val)
    have some : spans ≠ [] := by
      rintro rfl
      have ended : 0 = extent.val := follow
      omega
    refine ⟨spans, cut, by simp [none, some], fun _ => ?_, fun other same => ?_⟩
    · exact ⟨sequence_of_cut? cut, follow, fun span member => (onAxis span member).toInPhase⟩
    · rw [cut?_congr extent same, cut]

/-- The longest axis and the least phase: a part of a tile stands at either end. -/
theorem runs_cut_axis_farEnds :
    ∃ spans, cut? 2147483647 1000 (Px.saturate (-2147483648)) = some spans ∧
      CutsAxis 2147483647 1000 (-2147483648) spans ∧ cut? 2147483647 1000 352 = some spans := by
  obtain ⟨spans, cut, nothing, axis, phases⟩ :=
    runs_cut_axis 2147483647 1000 (Px.saturate (-2147483648))
  have some : spans ≠ [] := fun empty => absurd (nothing.mp empty) (by decide)
  exact ⟨spans, cut, axis some, phases 352 (by decide)⟩

end Handbook.Span
