import Mathlib.Data.Int.ModEq
import Handbook.Tiling.Span

/-!
The runs of an axis. They follow one another from the first pixel to the last, and each shows the
tile in the phase that the axis asks for.
-/

namespace Handbook.Span

/-- Spans that follow one another without a gap from one pixel up to another, each with a pixel of
its own. -/
def Follow : Int → List Span → Int → Prop
  | start, [], finish => start = finish
  | start, span :: rest, finish =>
    span.offset.val = start ∧ 0 < span.length.val ∧ Follow (start + span.length.val) rest finish

/-- The span has the pixel at a distance from the origin. -/
def Covers (span : Span) (x : Int) : Prop :=
  span.offset.val ≤ x ∧ x < span.offset.val + span.length.val

/-- The span shows a part of one tile, the part that stands there when tiles start in the phase. -/
structure InPhase (tile phase : Int) (span : Span) : Prop where
  source_nonneg : 0 ≤ span.source.val
  source_le : span.source.val + span.length.val ≤ tile
  congruent : span.source.val ≡ span.offset.val - phase [ZMOD tile]

/-- The span is one of those that cut an axis: it has a pixel, lies on the axis and is in phase. -/
structure OnAxis (extent tile phase : Int) (span : Span) : Prop
    extends InPhase tile phase span where
  offset_nonneg : 0 ≤ span.offset.val
  length_pos : 0 < span.length.val
  end_le : span.offset.val + span.length.val ≤ extent

variable {start middle finish tile phase : Int} {spans first second : List Span} {span : Span}

theorem Follow.append (before : Follow start first middle) (after : Follow middle second finish) :
    Follow start (first ++ second) finish := by
  induction first generalizing start with
  | nil =>
    cases before
    exact after
  | cons span rest ih =>
    obtain ⟨offset, positive, later⟩ := before
    exact ⟨offset, positive, ih later⟩

theorem Follow.start_le (follow : Follow start spans finish) : start ≤ finish := by
  induction spans generalizing start with
  | nil => exact Int.le_of_eq follow
  | cons span rest ih =>
    obtain ⟨_, positive, later⟩ := follow
    have := ih later
    omega

theorem Follow.bounds (follow : Follow start spans finish) (member : span ∈ spans) :
    start ≤ span.offset.val ∧ 0 < span.length.val ∧
      span.offset.val + span.length.val ≤ finish := by
  induction spans generalizing start with
  | nil => cases member
  | cons head rest ih =>
    obtain ⟨offset, positive, later⟩ := follow
    rcases List.mem_cons.mp member with rfl | inRest
    · have := later.start_le
      omega
    · have := ih later inRest
      omega

theorem Follow.exists_covers (follow : Follow start spans finish) {x : Int} (atLeast : start ≤ x)
    (below : x < finish) : ∃ span ∈ spans, span.Covers x := by
  induction spans generalizing start with
  | nil =>
    cases follow
    omega
  | cons span rest ih =>
    obtain ⟨offset, _, later⟩ := follow
    by_cases here : x < start + span.length.val
    · exact ⟨span, List.mem_cons_self .., by omega, by omega⟩
    · obtain ⟨other, member, covers⟩ := ih later (by omega)
      exact ⟨other, List.mem_cons_of_mem _ member, covers⟩

theorem Follow.pairwise (follow : Follow start spans finish) :
    spans.Pairwise fun first second =>
      first.offset.val + first.length.val ≤ second.offset.val := by
  induction spans generalizing start with
  | nil => exact .nil
  | cons span rest ih =>
    obtain ⟨offset, _, later⟩ := follow
    refine .cons (fun other member => ?_) (ih later)
    rw [offset]
    exact (later.bounds member).1

/-- A pixel of a span in phase shows the pixel of the tile that its distance from the phase tells. -/
theorem InPhase.source_add (shows : InPhase tile phase span) {x : Int} (covers : span.Covers x) :
    span.source.val + (x - span.offset.val) = (x - phase) % tile := by
  obtain ⟨nonneg, fits, congruent⟩ := shows
  obtain ⟨atLeast, below⟩ := covers
  have shifted : span.source.val + (x - span.offset.val) ≡ x - phase [ZMOD tile] := by
    have moved := congruent.add_right (x - span.offset.val)
    rwa [show span.offset.val - phase + (x - span.offset.val) = x - phase by omega] at moved
  rw [← shifted.eq, Int.emod_eq_of_lt] <;> omega

/-- A span is in phase when it samples from the start of a tile and stands where a tile starts. -/
theorem inPhase_of_source_zero (source : span.source = 0) (fits : span.length.val ≤ tile)
    (aligned : span.offset.val ≡ phase [ZMOD tile]) : InPhase tile phase span := by
  refine ⟨by simp [source], by simpa [source] using fits, ?_⟩
  have apart := aligned.sub_right phase
  rw [Int.sub_self] at apart
  rw [source, Px.val_zero]
  exact apart.symm

/-- A row of whole tiles does not leave the range before its end does. -/
theorem exists_fulls {tile offset : Px} (count : Nat) (positive : 0 < tile.val)
    (nonneg : 0 ≤ offset.val) (aligned : offset.val ≡ phase [ZMOD tile.val])
    (fits : offset.val + count * tile.val ≤ 2147483647) :
    ∃ spans last, fulls? tile count offset = some (spans, last) ∧
      last.val = offset.val + count * tile.val ∧ last.val ≡ phase [ZMOD tile.val] ∧
      Follow offset.val spans last.val ∧ ∀ span ∈ spans, InPhase tile.val phase span := by
  induction count generalizing offset with
  | zero => exact ⟨[], offset, rfl, by simp, aligned, rfl, by simp⟩
  | succ count ih =>
    have product : ((count + 1 : Nat) : Int) * tile.val = tile.val + count * tile.val := by
      rw [Nat.cast_succ, Int.add_mul, Int.one_mul, Int.add_comm]
    have partly : 0 ≤ (count : Int) * tile.val := Int.mul_nonneg (by omega) (by omega)
    rw [product] at fits ⊢
    obtain ⟨next, formed, value⟩ :=
      Px.exists_fit? (offset.val + tile.val) ⟨by omega, by omega⟩
    have alignedNext : next.val ≡ phase [ZMOD tile.val] := by
      rw [value]
      exact Int.add_modEq_right.trans aligned
    obtain ⟨later, last, found, ends, alignedLast, follow, shows⟩ :=
      ih (by omega) alignedNext (by omega)
    refine ⟨⟨offset, tile, 0, .full⟩ :: later, last, by simp [fulls?, formed, found], by omega,
      alignedLast, ⟨rfl, positive, value ▸ follow⟩, ?_⟩
    intro span member
    rcases List.mem_cons.mp member with rfl | inLater
    · exact inPhase_of_source_zero rfl (Int.le_refl _) aligned
    · exact shows span inLater

private theorem exists_leading {tile lead length : Px} (phase : Int)
    (known : lead.val = phase % tile.val)
    (positive : 0 < tile.val) (nonneg : 0 ≤ length.val) (le : length.val ≤ lead.val) :
    ∃ spans, leading? tile lead length = some spans ∧ Follow 0 spans length.val ∧
      ∀ span ∈ spans, InPhase tile.val phase span := by
  have small : phase % tile.val < tile.val := Int.emod_lt_of_pos _ positive
  have high := tile.le_upper
  by_cases some : 0 < length.val
  · obtain ⟨source, formed, value⟩ :=
      Px.exists_fit? (tile.val - lead.val) (by unfold Px.InRange; omega)
    refine ⟨[⟨0, length, source, .leading⟩], by simp [leading?, some, formed], ?_, ?_⟩
    · exact ⟨rfl, some, by simp [Follow]⟩
    · intro span member
      rw [List.mem_singleton] at member
      subst span
      refine ⟨by simp only [value]; omega, by simp only [value]; omega, ?_⟩
      rw [value, known, Px.val_zero, Int.zero_sub]
      calc tile.val - phase % tile.val
          ≡ 0 - phase [ZMOD tile.val] :=
            (Int.modEq_iff_dvd.mpr (by simp)).sub (Int.mod_modEq _ _)
        _ = -phase := by omega
  · have zero : length.val = 0 := by omega
    exact ⟨[], by simp [leading?, zero], by rw [zero]; rfl, by simp⟩

private theorem exists_following {extent tile lead : Px} (positive : 0 < tile.val)
    (nonneg : 0 ≤ lead.val) (less : lead.val < extent.val)
    (aligned : lead.val ≡ phase [ZMOD tile.val]) :
    ∃ spans, following? extent tile lead = some spans ∧ Follow lead.val spans extent.val ∧
      ∀ span ∈ spans, InPhase tile.val phase span := by
  have high := extent.le_upper
  have highTile := tile.le_upper
  obtain ⟨rest, formedRest, valueRest⟩ :=
    Px.exists_fit? (extent.val - lead.val) ⟨by omega, by omega⟩
  have leftNonneg : 0 ≤ rest.val % tile.val := Int.emod_nonneg _ (by omega)
  have leftLt : rest.val % tile.val < tile.val := Int.emod_lt_of_pos _ positive
  obtain ⟨left, formedLeft, valueLeft⟩ :=
    Px.exists_fit? (rest.val % tile.val) ⟨by omega, by omega⟩
  have whole : (((rest.val / tile.val).toNat : Nat) : Int) * tile.val = rest.val - left.val := by
    have divided := Int.ediv_mul_add_emod rest.val tile.val
    rw [Int.toNat_of_nonneg (Int.ediv_nonneg (by omega) (by omega))]
    omega
  obtain ⟨fulls, last, found, ends, alignedLast, follow, shows⟩ :=
    exists_fulls (rest.val / tile.val).toNat positive nonneg aligned (by omega)
  by_cases some : 0 < left.val
  · refine ⟨fulls ++ [⟨last, left, 0, .trailing⟩],
      by simp [following?, formedRest, found, formedLeft, some],
      follow.append ⟨rfl, some, by simp only [Follow]; omega⟩, ?_⟩
    intro span member
    rcases List.mem_append.mp member with inFulls | inTrailing
    · exact shows span inFulls
    · rw [List.mem_singleton] at inTrailing
      subst span
      exact inPhase_of_source_zero rfl (by simp only; omega) alignedLast
  · have ended : last.val = extent.val := by omega
    exact ⟨fulls, by simp [following?, formedRest, found, formedLeft, some], ended ▸ follow, shows⟩

/-- An axis is cut without leaving the range, from its first pixel to its last and in phase. -/
theorem exists_cut {extent tile : Px} (phase : Px) (nonneg : 0 ≤ extent.val)
    (positive : 0 < tile.val) :
    ∃ spans, cut? extent tile phase = some spans ∧ Follow 0 spans extent.val ∧
      ∀ span ∈ spans, OnAxis extent.val tile.val phase.val span := by
  suffices cut : ∃ spans, cut? extent tile phase = some spans ∧ Follow 0 spans extent.val ∧
      ∀ span ∈ spans, InPhase tile.val phase.val span by
    obtain ⟨spans, found, follow, shows⟩ := cut
    refine ⟨spans, found, follow, fun span member => ?_⟩
    obtain ⟨atLeast, positive, atMost⟩ := follow.bounds member
    exact ⟨shows span member, atLeast, positive, atMost⟩
  by_cases wide : 0 < extent.val
  · have least : 0 ≤ phase.val % tile.val := Int.emod_nonneg _ (by omega)
    have small : phase.val % tile.val < tile.val := Int.emod_lt_of_pos _ positive
    obtain ⟨lead, formed, known⟩ :=
      Px.exists_fit? (phase.val % tile.val)
        (by have := tile.le_upper; unfold Px.InRange; omega)
    have guard : (extent.val ≤ 0 || tile.val ≤ 0) = false := by simp; omega
    by_cases short : extent.val ≤ lead.val
    · obtain ⟨spans, found, follow, shows⟩ :=
        exists_leading phase.val known positive nonneg short
      exact ⟨spans, by simp [cut?, guard, formed, short, found], follow, shows⟩
    · obtain ⟨leading, foundLeading, followLeading, showsLeading⟩ :=
        exists_leading phase.val known positive (by omega) (Int.le_refl lead.val)
      obtain ⟨later, foundLater, followLater, showsLater⟩ :=
        exists_following positive (by omega) (by omega : lead.val < extent.val)
          (known ▸ Int.mod_modEq phase.val tile.val)
      refine ⟨leading ++ later, ?_, followLeading.append followLater, ?_⟩
      · simp [cut?, guard, formed, short, foundLeading, foundLater]
      · intro span member
        exact (List.mem_append.mp member).elim (showsLeading span) (showsLater span)
  · have zero : extent.val = 0 := by omega
    exact ⟨[], by simp [cut?, zero], by rw [zero]; rfl, by simp⟩

theorem onAxis_of_cut? {extent tile phase : Px} {spans : List Span} (nonneg : 0 ≤ extent.val)
    (positive : 0 < tile.val) (cut : cut? extent tile phase = some spans) :
    ∀ span ∈ spans, OnAxis extent.val tile.val phase.val span := by
  obtain ⟨found, isCut, -, onAxis⟩ := exists_cut phase nonneg positive
  rw [cut] at isCut
  rw [Option.some.inj isCut]
  exact onAxis

end Handbook.Span
