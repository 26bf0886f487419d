import Handbook.Proofs.Rect

namespace Handbook

namespace Rect

variable {rect other third shared : Rect}

section
variable (start length otherStart otherLength thirdStart thirdLength : Int)

theorem commonLength_self : commonLength start length start length = length := by
  unfold commonLength
  omega

theorem commonLength_comm :
    commonLength start length otherStart otherLength =
      commonLength otherStart otherLength start length := by
  unfold commonLength
  omega

private theorem commonLength_le :
    commonLength start length otherStart otherLength ≤ length := by
  unfold commonLength
  omega

/-- A stretch that was cut short at zero has as much in common with a third one as the gap that it
stands for, which is nothing. -/
theorem commonLength_clamped :
    max (commonLength (max start otherStart)
        (max (commonLength start length otherStart otherLength) 0) thirdStart thirdLength) 0 =
      max (min (min (start + length) (otherStart + otherLength)) (thirdStart + thirdLength) -
        max (max start otherStart) thirdStart) 0 := by
  unfold commonLength
  omega

/-- What three stretches have in common does not depend on which two are compared first. -/
theorem commonLength_assoc :
    max (commonLength (max start otherStart)
        (max (commonLength start length otherStart otherLength) 0) thirdStart thirdLength) 0 =
      max (commonLength start length (max otherStart thirdStart)
        (max (commonLength otherStart otherLength thirdStart thirdLength) 0)) 0 := by
  rw [commonLength_clamped, commonLength_comm start, commonLength_clamped,
    Int.min_comm _ (start + length), Int.max_comm _ start, Int.min_assoc, Int.max_assoc]

end

theorem sharedColumns_comm (rect other : Rect) :
    rect.sharedColumns other = other.sharedColumns rect := commonLength_comm ..

theorem sharedRows_comm (rect other : Rect) : rect.sharedRows other = other.sharedRows rect :=
  commonLength_comm ..

theorem isSome_overlap?_iff_inRange : (rect.overlap? other).isSome ↔
    rect.OnRange ∧ other.OnRange ∧ Px.InRange (rect.sharedColumns other) ∧
      Px.InRange (rect.sharedRows other) := by
  simp only [overlap?, ofCorners?, OnRange, right?, bottom?, bind, pure, Px.isSome_fit?_bind,
    Px.fit?_isSome_iff, Option.isSome_some, Px.val_min, Px.val_max, exists_prop, and_true,
    sharedColumns, sharedRows, commonLength]
  constructor
  · rintro ⟨right, otherRight, bottom, otherBottom, width, height⟩
    exact ⟨⟨right, bottom⟩, ⟨otherRight, otherBottom⟩, width, height⟩
  · rintro ⟨⟨right, bottom⟩, ⟨otherRight, otherBottom⟩, width, height⟩
    exact ⟨right, otherRight, bottom, otherBottom, width, height⟩

/-- Neither across nor down does a gap of more than 2147483648 pixels part the rectangles. -/
def Near (rect other : Rect) : Prop :=
  max rect.left.val other.left.val -
      min (rect.left.val + rect.width.val) (other.left.val + other.width.val) ≤ 2147483648 ∧
    max rect.top.val other.top.val -
      min (rect.top.val + rect.height.val) (other.top.val + other.height.val) ≤ 2147483648

instance (rect other : Rect) : Decidable (rect.Near other) :=
  inferInstanceAs (Decidable (_ ∧ _))

/-- Two rectangles have no more in common than the first one has, so only gaps leave the range. -/
theorem near_iff_inRange : rect.Near other ↔
    Px.InRange (rect.sharedColumns other) ∧ Px.InRange (rect.sharedRows other) := by
  have columns : rect.sharedColumns other ≤ rect.width.val := commonLength_le ..
  have rows : rect.sharedRows other ≤ rect.height.val := commonLength_le ..
  have wide := rect.width.le_upper
  have high := rect.height.le_upper
  unfold Near Px.InRange sharedColumns sharedRows commonLength at *
  omega

theorem isSome_overlap?_iff : (rect.overlap? other).isSome ↔
    rect.OnRange ∧ other.OnRange ∧ rect.Near other := by
  rw [isSome_overlap?_iff_inRange, near_iff_inRange]

theorem near_comm : rect.Near other ↔ other.Near rect := by
  rw [near_iff_inRange, near_iff_inRange, sharedColumns_comm, sharedRows_comm]

theorem overlap?_eq_some_iff : rect.overlap? other = some shared ↔
    (rect.OnRange ∧ other.OnRange ∧ rect.Near other) ∧
      shared.left.val = max rect.left.val other.left.val ∧
      shared.top.val = max rect.top.val other.top.val ∧
      shared.width.val = max (rect.sharedColumns other) 0 ∧
      shared.height.val = max (rect.sharedRows other) 0 := by
  simp only [← Px.val_max, ← Px.ext_val_iff]
  constructor
  · intro overlaps
    exact ⟨isSome_overlap?_iff.mp (Option.isSome_of_eq_some overlaps), extent_of_overlap? overlaps⟩
  · rintro ⟨near, left, top, width, height⟩
    obtain ⟨formed, overlaps⟩ := Option.isSome_iff_exists.mp (isSome_overlap?_iff.mpr near)
    obtain ⟨formedLeft, formedTop, formedWidth, formedHeight⟩ := extent_of_overlap? overlaps
    rw [overlaps]
    exact congrArg some (ext_extent (formedLeft.trans left.symm) (formedTop.trans top.symm)
      (formedWidth.trans width.symm) (formedHeight.trans height.symm))

private theorem isSome_intersects? :
    (rect.intersects? other).isSome = (rect.overlap? other).isSome := by
  unfold intersects?
  cases rect.overlap? other <;> rfl

/-- The far edges of an overlap are pixel numbers again: they are near edges or far edges of the
rectangles that it is formed of. -/
theorem onRange_of_overlap? (overlaps : rect.overlap? other = some shared) : shared.OnRange := by
  obtain ⟨left, top, width, height⟩ := extent_of_overlap? overlaps
  obtain ⟨⟨right, bottom⟩, ⟨otherRight, otherBottom⟩, -⟩ :=
    isSome_overlap?_iff.mp (Option.isSome_of_eq_some overlaps)
  rw [Px.ext_val_iff, Px.val_max] at left top
  unfold sharedColumns commonLength at width
  unfold sharedRows commonLength at height
  simp only [OnRange, right?, bottom?, Px.fit?_isSome_iff, Px.InRange] at *
  obtain ⟨_, _⟩ := rect.left.inRange_val
  obtain ⟨_, _⟩ := rect.top.inRange_val
  obtain ⟨_, _⟩ := other.left.inRange_val
  obtain ⟨_, _⟩ := other.top.inRange_val
  omega

theorem overlap?_self (overlaps : rect.overlap? rect = some shared) : shared = rect := by
  obtain ⟨left, top, width, height⟩ := extent_of_overlap? overlaps
  rw [Px.ext_val_iff, Px.val_max, Int.max_self, ← Px.ext_val_iff] at left top
  rw [sharedColumns, commonLength_self, Int.max_eq_left rect.width_nonneg] at width
  rw [sharedRows, commonLength_self, Int.max_eq_left rect.height_nonneg] at height
  exact ext_extent left top width height

/-- The order of two rectangles decides neither whether they can be overlapped nor what comes of
it. -/
theorem overlap?_comm (rect other : Rect) : rect.overlap? other = other.overlap? rect := by
  ext shared
  rw [overlap?_eq_some_iff, overlap?_eq_some_iff, near_comm, sharedColumns_comm, sharedRows_comm,
    Int.max_comm rect.left.val, Int.max_comm rect.top.val]
  exact and_congr_left fun _ => and_left_comm

/-- Both groupings of three rectangles start with the latest start and end with the earliest end,
or are cut short at zero by the same gap. -/
theorem overlap?_assoc {firstTwo lastTwo before after : Rect}
    (isFirstTwo : rect.overlap? other = some firstTwo)
    (isBefore : firstTwo.overlap? third = some before)
    (isLastTwo : other.overlap? third = some lastTwo)
    (isAfter : rect.overlap? lastTwo = some after) : before = after := by
  obtain ⟨firstLeft, firstTop, firstWidth, firstHeight⟩ := extent_of_overlap? isFirstTwo
  obtain ⟨lastLeft, lastTop, lastWidth, lastHeight⟩ := extent_of_overlap? isLastTwo
  obtain ⟨beforeLeft, beforeTop, beforeWidth, beforeHeight⟩ := extent_of_overlap? isBefore
  obtain ⟨afterLeft, afterTop, afterWidth, afterHeight⟩ := extent_of_overlap? isAfter
  rw [Px.ext_val_iff, Px.val_max] at firstLeft firstTop lastLeft lastTop
  refine ext_extent (Px.ext ?_) (Px.ext ?_) ?_ ?_
  · rw [beforeLeft, afterLeft, Px.val_max, Px.val_max, firstLeft, lastLeft, Int.max_assoc]
  · rw [beforeTop, afterTop, Px.val_max, Px.val_max, firstTop, lastTop, Int.max_assoc]
  · rw [beforeWidth, afterWidth, sharedColumns, sharedColumns, firstLeft, lastLeft, firstWidth,
      lastWidth]
    exact commonLength_assoc ..
  · rw [beforeHeight, afterHeight, sharedRows, sharedRows, firstTop, lastTop, firstHeight,
      lastHeight]
    exact commonLength_assoc ..

/-- The overlap of two rectangles holds the points of both, rectangles intersect where they share a
pixel, and overlapping is idempotent, commutative and associative, empty rectangles included. -/
theorem overlap_is_meet :
    (∀ rect other shared : Rect, rect.overlap? other = some shared →
      (∀ x y : Int, shared.Covers x y ↔ rect.Covers x y ∧ other.Covers x y) ∧
      ∀ x y : Px, ∃ inRect inOther, rect.contains? x y = some inRect ∧
        other.contains? x y = some inOther ∧ shared.contains? x y = some (inRect && inOther)) ∧
    (∀ (rect other : Rect) (meets : Bool), rect.intersects? other = some meets →
      (meets = true ↔ ∃ x y : Int, rect.Covers x y ∧ other.Covers x y)) ∧
    (∀ rect shared : Rect, rect.overlap? rect = some shared → shared = rect) ∧
    (∀ rect other : Rect, rect.overlap? other = other.overlap? rect) ∧
    ∀ rect other third firstTwo lastTwo before after : Rect,
      rect.overlap? other = some firstTwo → firstTwo.overlap? third = some before →
      other.overlap? third = some lastTwo → rect.overlap? lastTwo = some after →
      before = after := by
  refine ⟨?_, fun _ _ _ => intersects_iff_exists_pixel, fun _ _ => overlap?_self, overlap?_comm,
    fun _ _ _ _ _ _ _ => overlap?_assoc⟩
  intro rect other shared overlaps
  refine ⟨covers_iff_of_overlap? overlaps, fun x y => ?_⟩
  obtain ⟨onRange, otherOnRange, -⟩ :=
    isSome_overlap?_iff.mp (Option.isSome_of_eq_some overlaps)
  refine ⟨_, _, contains?_eq_decide onRange x y, contains?_eq_decide otherOnRange x y, ?_⟩
  rw [contains?_eq_decide (onRange_of_overlap? overlaps), ← Bool.decide_and]
  exact congrArg some (decide_eq_decide.mpr (covers_iff_of_overlap? overlaps x.val y.val))

/-- Two rectangles side by side and a third one that reaches over the gap. Both groupings come to
the same empty rectangle, which keeps its place and its two rows. -/
theorem overlap_is_meet_apart :
    ∃ firstTwo lastTwo before after : Rect,
      (ofSize 0 0 10 10).overlap? (ofSize 20 5 10 10) = some firstTwo ∧
      firstTwo.overlap? (ofSize 5 8 30 30) = some before ∧
      (ofSize 20 5 10 10).overlap? (ofSize 5 8 30 30) = some lastTwo ∧
      (ofSize 0 0 10 10).overlap? lastTwo = some after ∧
      before = after ∧ before = ofSize 20 8 0 2 ∧
      (∀ x y : Int, lastTwo.Covers x y ↔
        (ofSize 20 5 10 10).Covers x y ∧ (ofSize 5 8 30 30).Covers x y) ∧
      (ofSize 5 8 30 30).overlap? (ofSize 20 5 10 10) = some lastTwo ∧
      (∃ self, lastTwo.overlap? lastTwo = some self ∧ self = lastTwo) ∧
      (ofSize 0 0 10 10).intersects? (ofSize 20 5 10 10) = some false ∧
      ¬ ∃ x y : Int, (ofSize 0 0 10 10).Covers x y ∧ (ofSize 20 5 10 10).Covers x y := by
  obtain ⟨points, meets, self, swapped, grouped⟩ := overlap_is_meet
  have isFirstTwo : (ofSize 0 0 10 10).overlap? (ofSize 20 5 10 10) = some (ofSize 20 5 0 5) := by
    decide
  have isBefore : (ofSize 20 5 0 5).overlap? (ofSize 5 8 30 30) = some (ofSize 20 8 0 2) := by
    decide
  have isLastTwo : (ofSize 20 5 10 10).overlap? (ofSize 5 8 30 30) = some (ofSize 20 8 10 7) := by
    decide
  have isAfter : (ofSize 0 0 10 10).overlap? (ofSize 20 8 10 7) = some (ofSize 20 8 0 2) := by
    decide
  have isSelf : (ofSize 20 8 10 7).overlap? (ofSize 20 8 10 7) = some (ofSize 20 8 10 7) := by
    decide
  have apart : (ofSize 0 0 10 10).intersects? (ofSize 20 5 10 10) = some false := by decide
  exact ⟨_, _, _, _, isFirstTwo, isBefore, isLastTwo, isAfter,
    grouped _ _ _ _ _ _ _ isFirstTwo isBefore isLastTwo isAfter, rfl, (points _ _ _ isLastTwo).1,
    (swapped _ _).trans isLastTwo, ⟨_, isSelf, self _ _ isSelf⟩, apart,
    fun shared => Bool.false_ne_true ((meets _ _ _ apart).mpr shared)⟩

private theorem near_of_shared_pixel {x y : Int} (covers : rect.Covers x y)
    (otherCovers : other.Covers x y) : rect.Near other := by
  unfold Near Covers at *
  omega

/-- Rectangles on the pixel range can be overlapped and compared exactly when no gap between them is
wider than half the range, so always when they share a pixel. The overlap starts with the later
start, and rectangles that share no pixel have an empty one. -/
theorem overlap_formed_iff_near (onRange : rect.OnRange) (otherOnRange : other.OnRange) :
    ((rect.overlap? other).isSome ↔ rect.Near other) ∧
      ((rect.intersects? other).isSome ↔ rect.Near other) ∧
      ((∃ x y, rect.Covers x y ∧ other.Covers x y) → rect.Near other) ∧
      ∀ shared, rect.overlap? other = some shared →
        shared.left = max rect.left other.left ∧ shared.top = max rect.top other.top ∧
          (shared.isEmpty = true ↔ ¬ ∃ x y, rect.Covers x y ∧ other.Covers x y) ∧
          rect.intersects? other = some (!shared.isEmpty) := by
  have formed : (rect.overlap? other).isSome ↔ rect.Near other := by
    simp [isSome_overlap?_iff, onRange, otherOnRange]
  refine ⟨formed, isSome_intersects? ▸ formed, ?_, fun shared overlaps => ?_⟩
  · rintro ⟨x, y, covers, otherCovers⟩
    exact near_of_shared_pixel covers otherCovers
  · obtain ⟨left, top, -⟩ := extent_of_overlap? overlaps
    refine ⟨left, top, ?_, ?_⟩
    · simp [isEmpty_iff, covers_iff_of_overlap? overlaps]
    · rw [intersects?, overlaps]
      rfl

/-- Two pixels with the widest gap over which an overlap is formed. -/
theorem overlap_formed_iff_near_widest :
    (ofSize (Px.saturate (-1073741825)) 0 1 1).OnRange ∧ (ofSize 1073741824 0 1 1).OnRange ∧
      ((ofSize (Px.saturate (-1073741825)) 0 1 1).overlap? (ofSize 1073741824 0 1 1)).isSome ∧
      ((ofSize (Px.saturate (-1073741825)) 0 1 1).intersects? (ofSize 1073741824 0 1 1)).isSome ∧
      ¬ ∃ x y, (ofSize (Px.saturate (-1073741825)) 0 1 1).Covers x y ∧
        (ofSize 1073741824 0 1 1).Covers x y := by
  have onRange : (ofSize (Px.saturate (-1073741825)) 0 1 1).OnRange := by decide
  have otherOnRange : (ofSize 1073741824 0 1 1).OnRange := by decide
  have near : (ofSize (Px.saturate (-1073741825)) 0 1 1).Near (ofSize 1073741824 0 1 1) := by
    decide
  have overlaps : (ofSize (Px.saturate (-1073741825)) 0 1 1).overlap? (ofSize 1073741824 0 1 1) =
      some (ofSize 1073741824 0 0 1) := by
    decide
  obtain ⟨formed, told, -, holds⟩ := overlap_formed_iff_near onRange otherOnRange
  obtain ⟨-, -, empty, -⟩ := holds _ overlaps
  exact ⟨onRange, otherOnRange, formed.mpr near, told.mpr near, empty.mp (by decide)⟩

/-- Two pixels near the two ends of the range. Their far edges are pixel numbers, but the gap
between them is not: neither is their overlap formed nor is it told that they do not intersect. -/
theorem overlap_of_far_ends :
    (ofSize (Px.saturate (-2147483648)) 0 1 1).OnRange ∧ (ofSize 2147483646 0 1 1).OnRange ∧
      (ofSize (Px.saturate (-2147483648)) 0 1 1).overlap? (ofSize 2147483646 0 1 1) = none ∧
      (ofSize (Px.saturate (-2147483648)) 0 1 1).intersects? (ofSize 2147483646 0 1 1) = none := by
  decide

end Rect

end Handbook
