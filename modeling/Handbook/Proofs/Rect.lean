import Handbook.Rect

namespace Handbook

namespace Px

private theorem fit?_of_inRange {value : Int} (fits : InRange value) :
    fit? value = some ⟨value, fits.1, fits.2⟩ := dif_pos fits

/-- A sum of pixel numbers is carried on with exactly where it fits. -/
theorem isSome_fit?_bind {Answer : Type} {value : Int} {next : Px → Option Answer} :
    ((fit? value).bind next).isSome ↔
      ∃ fits : InRange value, (next ⟨value, fits.1, fits.2⟩).isSome := by
  by_cases fits : InRange value
  · rw [fit?_of_inRange fits]
    exact ⟨fun formed => ⟨fits, formed⟩, fun ⟨_, formed⟩ => formed⟩
  · rw [fit?_eq_none_iff.mpr fits]
    exact ⟨fun formed => absurd formed Bool.false_ne_true, fun ⟨inRange, _⟩ => absurd inRange fits⟩

end Px

namespace Rect

variable {rect other shared inner : Rect} {amount : Px}

theorem ext_extent (left : rect.left = other.left) (top : rect.top = other.top)
    (width : rect.width.val = other.width.val) (height : rect.height.val = other.height.val) :
    rect = other := by
  rw [← Px.ext_val_iff] at width height
  cases rect
  cases other
  simp_all

theorem covers_ends (occupied : rect.isEmpty = false) :
    rect.Covers rect.left.val rect.top.val ∧
      rect.Covers (rect.left.val + rect.width.val - 1) (rect.top.val + rect.height.val - 1) := by
  have wide := rect.width_nonneg
  have high := rect.height_nonneg
  simp only [isEmpty, Bool.or_eq_false_iff, beq_eq_false_iff_ne] at occupied
  unfold Covers
  omega

section
variable {x y : Px}

theorem covers_of_contains? (contains : rect.contains? x y = some true) :
    rect.Covers x.val y.val := by
  unfold contains? at contains
  split at contains
  · cases contains
  · next notBefore =>
    obtain ⟨right, isRight, contains⟩ := Option.bind_eq_some_iff.mp contains
    split at contains
    · cases contains
    · next inRows =>
      obtain ⟨bottom, isBottom, contains⟩ := Option.bind_eq_some_iff.mp contains
      have above := decide_eq_true_iff.mp (Option.some.inj contains)
      rw [Bool.or_eq_true, decide_eq_true_iff, decide_eq_true_iff] at inRows
      rw [Px.fit?_eq_some_iff.mp isRight] at inRows
      rw [Px.fit?_eq_some_iff.mp isBottom] at above
      unfold Covers
      omega

/-- The far edges of the rectangle are pixel numbers. -/
def OnRange (rect : Rect) : Prop := rect.right?.isSome ∧ rect.bottom?.isSome

instance (rect : Rect) : Decidable rect.OnRange := inferInstanceAs (Decidable (_ ∧ _))

/-- A rectangle whose far edges are pixel numbers answers about every point. -/
theorem contains?_eq_decide (onRange : rect.OnRange) (x y : Px) :
    rect.contains? x y = some (decide (rect.Covers x.val y.val)) := by
  obtain ⟨right, isRight⟩ := Option.isSome_iff_exists.mp onRange.1
  obtain ⟨bottom, isBottom⟩ := Option.isSome_iff_exists.mp onRange.2
  unfold contains?
  rw [isRight, isBottom]
  rw [right?, Px.fit?_eq_some_iff] at isRight
  rw [bottom?, Px.fit?_eq_some_iff] at isBottom
  split
  · next before =>
    exact congrArg some (decide_eq_false fun covers => Int.not_le.mpr before covers.1).symm
  · next notBefore =>
    simp only [Option.bind_eq_bind, Option.bind_some, Bool.or_eq_true, decide_eq_true_eq]
    split
    · next outside =>
      refine congrArg some (decide_eq_false fun covers => ?_).symm
      unfold Covers at covers
      omega
    · next inRows =>
      refine congrArg some (decide_eq_decide.mpr ?_)
      unfold Covers
      omega

theorem contains?_isSome (right : Px.InRange (rect.left.val + rect.width.val))
    (bottom : Px.InRange (rect.top.val + rect.height.val)) : (rect.contains? x y).isSome := by
  rw [contains?_eq_decide ⟨Px.fit?_isSome_iff.mpr right, Px.fit?_isSome_iff.mpr bottom⟩]
  rfl

end

/-- How many pixels two stretches of a line have in common; the gap between them, negated, where a
gap parts them. -/
def commonLength (start length otherStart otherLength : Int) : Int :=
  min (start + length) (otherStart + otherLength) - max start otherStart

/-- The number of columns that two rectangles have in common, with gaps negated. -/
def sharedColumns (rect other : Rect) : Int :=
  commonLength rect.left.val rect.width.val other.left.val other.width.val

/-- The number of rows that two rectangles have in common, with gaps negated. -/
def sharedRows (rect other : Rect) : Int :=
  commonLength rect.top.val rect.height.val other.top.val other.height.val

/-- An overlap starts with the later start. Its sides are what the rectangles have in common, and
zero where that is a gap. -/
theorem extent_of_overlap? (overlaps : rect.overlap? other = some shared) :
    shared.left = max rect.left other.left ∧ shared.top = max rect.top other.top ∧
      shared.width.val = max (rect.sharedColumns other) 0 ∧
      shared.height.val = max (rect.sharedRows other) 0 := by
  obtain ⟨right, isRight, overlaps⟩ := Option.bind_eq_some_iff.mp overlaps
  obtain ⟨otherRight, isOtherRight, overlaps⟩ := Option.bind_eq_some_iff.mp overlaps
  obtain ⟨bottom, isBottom, overlaps⟩ := Option.bind_eq_some_iff.mp overlaps
  obtain ⟨otherBottom, isOtherBottom, overlaps⟩ := Option.bind_eq_some_iff.mp overlaps
  obtain ⟨width, isWidth, overlaps⟩ := Option.bind_eq_some_iff.mp overlaps
  obtain ⟨height, isHeight, overlaps⟩ := Option.bind_eq_some_iff.mp overlaps
  cases overlaps
  simp only [right?, bottom?, Px.fit?_eq_some_iff, Px.val_min, Px.val_max] at *
  refine ⟨rfl, rfl, ?_, ?_⟩
  · rw [val_width_ofSize, isWidth, isRight, isOtherRight, sharedColumns, commonLength]
  · rw [val_height_ofSize, isHeight, isBottom, isOtherBottom, sharedRows, commonLength]

/-- Whatever is formed as the overlap holds the pixels of both rectangles and no other. -/
theorem covers_iff_of_overlap? (overlaps : rect.overlap? other = some shared) (x y : Int) :
    shared.Covers x y ↔ rect.Covers x y ∧ other.Covers x y := by
  obtain ⟨left, top, width, height⟩ := extent_of_overlap? overlaps
  rw [Px.ext_val_iff, Px.val_max] at left top
  unfold sharedColumns commonLength at width
  unfold sharedRows commonLength at height
  unfold Covers
  omega

/-- Rectangles that are told to intersect share a pixel, and others share none. -/
theorem intersects_iff_exists_pixel {meets : Bool} (told : rect.intersects? other = some meets) :
    meets = true ↔ ∃ x y, rect.Covers x y ∧ other.Covers x y := by
  obtain ⟨shared, overlaps, isMeets⟩ := Option.bind_eq_some_iff.mp told
  have occupied : meets = true ↔ ¬ shared.isEmpty = true := by
    rw [← Option.some.inj isMeets]
    simp
  rw [occupied, isEmpty_iff]
  simp [covers_iff_of_overlap? overlaps]

theorem translate?_eq_some_iff {dx dy : Px} {moved : Rect} : rect.translate? dx dy = some moved ↔
    moved.left.val = rect.left.val + dx.val ∧ moved.top.val = rect.top.val + dy.val ∧
      moved.width = rect.width ∧ moved.height = rect.height := by
  simp only [translate?, bind, pure, Option.bind_eq_some_iff, Px.fit?_eq_some_iff,
    Option.some.injEq, moveTo]
  constructor
  · rintro ⟨left, isLeft, top, isTop, rfl⟩
    exact ⟨isLeft, isTop, rfl, rfl⟩
  · rintro ⟨isLeft, isTop, isWidth, isHeight⟩
    refine ⟨moved.left, isLeft, moved.top, isTop, ?_⟩
    cases moved
    simp_all

/-- Whatever is formed of a rectangle that is moved across under a condition is formed of one at the
place that the condition tells. -/
theorem exists_moved {Answer : Type} {past : Prop} [Decidable past] {distance : Int}
    {next : Rect → Option Answer} {answer : Answer}
    (formed : (if past then
        (Px.fit? distance).bind fun dx => (rect.translate? dx 0).bind fun moved => next moved
      else next rect) = some answer) :
    ∃ moved : Rect, moved.left.val = (if past then rect.left.val + distance else rect.left.val) ∧
      moved.top = rect.top ∧ moved.width = rect.width ∧ moved.height = rect.height ∧
      next moved = some answer := by
  split at formed
  · next isPast =>
    obtain ⟨dx, isDistance, formed⟩ := Option.bind_eq_some_iff.mp formed
    obtain ⟨moved, isMoved, formed⟩ := Option.bind_eq_some_iff.mp formed
    obtain ⟨left, top, width, height⟩ := translate?_eq_some_iff.mp isMoved
    rw [Px.fit?_eq_some_iff.mp isDistance] at left
    rw [Px.val_zero, Int.add_zero] at top
    exact ⟨moved, by rw [left, if_pos isPast], Px.ext top, width, height, formed⟩
  · next stays => exact ⟨rect, (if_neg stays).symm, rfl, rfl, rfl, formed⟩

theorem extent_of_inset? (formed : rect.inset? amount = some inner) :
    inner.left.val = rect.left.val + amount.val ∧ inner.top.val = rect.top.val + amount.val ∧
      inner.width.val = max (rect.width.val - 2 * amount.val) 0 ∧
      inner.height.val = max (rect.height.val - 2 * amount.val) 0 := by
  obtain ⟨left, isLeft, formed⟩ := Option.bind_eq_some_iff.mp formed
  obtain ⟨top, isTop, formed⟩ := Option.bind_eq_some_iff.mp formed
  obtain ⟨both, isBoth, formed⟩ := Option.bind_eq_some_iff.mp formed
  obtain ⟨width, isWidth, formed⟩ := Option.bind_eq_some_iff.mp formed
  obtain ⟨height, isHeight, formed⟩ := Option.bind_eq_some_iff.mp formed
  cases formed
  refine ⟨Px.fit?_eq_some_iff.mp isLeft, Px.fit?_eq_some_iff.mp isTop, ?_, ?_⟩
  · rw [val_width_ofSize, Px.fit?_eq_some_iff.mp isWidth, Px.fit?_eq_some_iff.mp isBoth]
  · rw [val_height_ofSize, Px.fit?_eq_some_iff.mp isHeight, Px.fit?_eq_some_iff.mp isBoth]

theorem isSome_inset? :
    (rect.inset? amount).isSome ↔
      Px.InRange (rect.left.val + amount.val) ∧ Px.InRange (rect.top.val + amount.val) ∧
        Px.InRange (2 * amount.val) ∧ Px.InRange (rect.width.val - 2 * amount.val) ∧
        Px.InRange (rect.height.val - 2 * amount.val) := by
  simp only [inset?, bind, pure, Px.isSome_fit?_bind, Option.isSome_some, exists_prop, and_true]

/-- A rectangle whose near corner is not negative has its far edges in the pixel range exactly when
no number is too large. -/
theorem isSome_right? (natural : 0 ≤ rect.left.val) :
    rect.right?.isSome ↔ rect.left.val + rect.width.val ≤ 2147483647 := by
  have wide := rect.width_nonneg
  rw [right?, Px.fit?_isSome_iff, Px.InRange]
  omega

end Rect

end Handbook
