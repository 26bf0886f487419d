import Mathlib.Tactic.SplitIfs
import Handbook.Panel.Tooltip
import Handbook.Proofs.Rect

namespace Handbook

namespace Tooltip

variable {textWidth lineHeight x y screenWidth : Px} {outer inner : Rect}

/-- A tooltip has the size of its text with room around it. It stands below the cursor, pulled to
the left where the screen ends before it and pushed to column zero where it would begin before the
screen. Its text box keeps the padding from all sides. -/
theorem extent_of_bounds?
    (formed : bounds? textWidth lineHeight x y screenWidth = some (outer, inner)) :
    (outer.left.val = max 0 (min (screenWidth.val - outer.width.val)
        (x.val - (textWidth.val + 2 * padding.val).tdiv 2 - padding.val)) ∧
      outer.top = y ∧ outer.width.val = max (textWidth.val + 4 * padding.val) 0 ∧
      outer.height.val = max (lineHeight.val + 2 * padding.val) 0) ∧
    inner.left.val = outer.left.val + padding.val ∧ inner.top.val = outer.top.val + padding.val ∧
      inner.width.val = max (textWidth.val + 2 * padding.val) 0 ∧
      inner.height.val = max lineHeight.val 0 := by
  obtain ⟨width, isWidth, formed⟩ := Option.bind_eq_some_iff.mp formed
  obtain ⟨middle, isMiddle, formed⟩ := Option.bind_eq_some_iff.mp formed
  obtain ⟨left, isLeft, formed⟩ := Option.bind_eq_some_iff.mp formed
  obtain ⟨outerWidth, isOuterWidth, formed⟩ := Option.bind_eq_some_iff.mp formed
  obtain ⟨outerHeight, isOuterHeight, formed⟩ := Option.bind_eq_some_iff.mp formed
  obtain ⟨right, isRight, formed⟩ := Option.bind_eq_some_iff.mp formed
  obtain ⟨pulled, pulledLeft, pulledTop, pulledWidth, pulledHeight, formed⟩ :=
    Rect.exists_moved formed
  obtain ⟨pushed, pushedLeft, pushedTop, pushedWidth, pushedHeight, formed⟩ :=
    Rect.exists_moved formed
  obtain ⟨innerLeft, isInnerLeft, formed⟩ := Option.bind_eq_some_iff.mp formed
  obtain ⟨innerTop, isInnerTop, formed⟩ := Option.bind_eq_some_iff.mp formed
  cases formed
  rw [Px.fit?_eq_some_iff] at isWidth isMiddle isLeft isOuterWidth isOuterHeight
  rw [Px.val_quotient, isWidth] at isMiddle
  refine ⟨?_, Px.fit?_eq_some_iff.mp isInnerLeft, Px.fit?_eq_some_iff.mp isInnerTop, ?_,
    Rect.val_height_ofSize ..⟩
  · have rightAt := Px.fit?_eq_some_iff.mp isRight
    rw [pulledLeft] at pushedLeft
    rw [pushedWidth, pulledWidth, pushedHeight, pulledHeight]
    simp only [Rect.val_width_ofSize, Rect.val_height_ofSize] at rightAt ⊢
    simp only [Rect.ofSize] at pushedLeft rightAt
    refine ⟨?_, pushedTop.trans pulledTop, by omega, by omega⟩
    rw [show x.val - (textWidth.val + 2 * padding.val).tdiv 2 - padding.val = left.val by
      rw [isLeft, isMiddle]; rfl]
    split_ifs at pushedLeft <;> omega
  · rw [Rect.val_width_ofSize, isWidth]

private theorem inset?_of_bounds? (wide : 0 ≤ textWidth.val) (high : 0 ≤ lineHeight.val)
    (formed : bounds? textWidth lineHeight x y screenWidth = some (outer, inner)) :
    outer.inset? padding = some inner := by
  obtain ⟨⟨-, -, outerWidth, outerHeight⟩, innerLeft, innerTop, innerWidth, innerHeight⟩ :=
    extent_of_bounds? formed
  have four : padding.val = 4 := rfl
  have width : outer.width.val - 2 * padding.val = inner.width.val := by omega
  have height : outer.height.val - 2 * padding.val = inner.height.val := by omega
  have isSome : (outer.inset? padding).isSome := by
    rw [Rect.isSome_inset?, ← innerLeft, ← innerTop, width, height]
    exact ⟨inner.left.inRange_val, inner.top.inRange_val, by decide, inner.width.inRange_val,
      inner.height.inRange_val⟩
  obtain ⟨shrunk, isShrunk⟩ := Option.isSome_iff_exists.mp isSome
  obtain ⟨shrunkLeft, shrunkTop, shrunkWidth, shrunkHeight⟩ := Rect.extent_of_inset? isShrunk
  rw [isShrunk]
  refine congrArg some (Rect.ext_extent (Px.ext ?_) (Px.ext ?_) ?_ ?_) <;> omega

/-- The first column of a box that has the cursor column in its middle. -/
def wantedLeft (textWidth x : Px) : Int := x.val - (textWidth.val + 8) / 2 - 4

/-- With this first column a box is on the screen, and nowhere else on the screen would it be as
close to the wanted column. So it is there if the screen allows. -/
structure Closest (width screenWidth wanted left : Int) : Prop where
  starts : 0 ≤ left
  ends : left + width ≤ screenWidth
  closest : ∀ other, 0 ≤ other → other + width ≤ screenWidth → other ≠ left →
    (left - wanted).natAbs < (other - wanted).natAbs
  unmoved : 0 ≤ wanted → wanted + width ≤ screenWidth → left = wanted

private theorem closest_of_clamped {width screenWidth wanted left : Int}
    (fits : width ≤ screenWidth)
    (clamped : left = max 0 (min wanted (screenWidth - width))) :
    Closest width screenWidth wanted left := by
  constructor
  · omega
  · omega
  · intro other starts ends elsewhere
    omega
  · intro starts ends
    omega

/-- A tooltip is as large as its text with the padding around it twice, starts in the row that it is
given and takes, of the places on the screen, the one closest to the cursor. If the screen cannot
hold it, it starts with the screen. -/
theorem stands_closest_on_screen (wide : 0 ≤ textWidth.val) (high : 0 ≤ lineHeight.val)
    (formed : bounds? textWidth lineHeight x y screenWidth = some (outer, inner)) :
    outer.width.val = textWidth.val + 16 ∧ outer.height.val = lineHeight.val + 8 ∧
      outer.top = y ∧
      outer.left.val =
        max 0 (min (wantedLeft textWidth x) (screenWidth.val - (textWidth.val + 16))) ∧
      outer.inset? padding = some inner ∧
      (textWidth.val + 16 ≤ screenWidth.val → Closest (textWidth.val + 16) screenWidth.val
        (wantedLeft textWidth x) outer.left.val) ∧
      (screenWidth.val < textWidth.val + 16 → outer.left.val = 0) := by
  obtain ⟨⟨left, top, outerWidth, outerHeight⟩, -⟩ := extent_of_bounds? formed
  have four : padding.val = 4 := rfl
  have half : (textWidth.val + 2 * padding.val).tdiv 2 = (textWidth.val + 8) / 2 :=
    Int.tdiv_eq_ediv_of_nonneg (by omega)
  have width : outer.width.val = textWidth.val + 16 := by omega
  have clamped : outer.left.val =
      max 0 (min (wantedLeft textWidth x) (screenWidth.val - (textWidth.val + 16))) := by
    rw [left, half, width, Int.min_comm]
    rfl
  refine ⟨width, by omega, top, clamped, inset?_of_bounds? wide high formed,
    fun fits => closest_of_clamped fits clamped, fun narrow => by omega⟩

/-- A tooltip of odd width that would stick out on the right, and one that is wider than its
screen. -/
theorem stands_closest_on_screen_atTheEdges :
    ∃ outer inner wider widerInner, bounds? 19 12 95 0 100 = some (outer, inner) ∧
      outer.left.val = 65 ∧ wantedLeft 19 95 = 78 ∧ Closest 35 100 78 outer.left.val ∧
      outer.inset? padding = some inner ∧
      bounds? 18 12 10 0 20 = some (wider, widerInner) ∧ wider.left.val = 0 ∧
      wider.width.val = 34 := by
  have placed : bounds? 19 12 95 0 100 = some (Rect.ofSize 65 0 35 20, Rect.ofSize 69 4 27 12) := by
    decide
  have widerPlaced :
      bounds? 18 12 10 0 20 = some (Rect.ofSize 0 0 34 20, Rect.ofSize 4 4 26 12) := by
    decide
  obtain ⟨-, -, -, -, inset, closest, -⟩ :=
    stands_closest_on_screen (by decide) (by decide) placed
  obtain ⟨width, -, -, -, -, -, starts⟩ :=
    stands_closest_on_screen (by decide) (by decide) widerPlaced
  exact ⟨_, _, _, _, placed, rfl, rfl, closest (by decide), inset, widerPlaced,
    starts (by decide), width⟩

end Tooltip

end Handbook
