import Handbook.Px
import Handbook.Binary32.Arithmetic

namespace Handbook

structure SheetSize where
  width : UInt32 := 256
  height : UInt32 := 256
deriving DecidableEq, Inhabited

namespace SheetSize

/-- The share of the sheet's width that one pixel column takes. -/
def columnShare (size : SheetSize) : Binary32 := 1 / Binary32.ofInt size.width.toNat

/-- The share of the sheet's height that one pixel row takes. -/
def rowShare (size : SheetSize) : Binary32 := 1 / Binary32.ofInt size.height.toNat

end SheetSize

/-- A rectangle of the texture sheet with at least one pixel. -/
structure Sprite where
  left : Px
  top : Px
  width : Px
  height : Px
  width_pos : 0 < width.val
  height_pos : 0 < height.val
deriving DecidableEq

namespace Sprite

/-- The sprite of a near corner and a size, when the size is positive. -/
def ofSize? (left top width height : Px) : Option Sprite :=
  if positive : 0 < width.val ∧ 0 < height.val then
    some ⟨left, top, width, height, positive.1, positive.2⟩
  else none

theorem ofSize?_eq_some_iff {left top width height : Px} {sprite : Sprite} :
    ofSize? left top width height = some sprite ↔
      sprite.left = left ∧ sprite.top = top ∧ sprite.width = width ∧ sprite.height = height := by
  unfold ofSize?
  constructor
  · intro found
    split at found
    · cases found
      exact ⟨rfl, rfl, rfl, rfl⟩
    · cases found
  · rintro ⟨rfl, rfl, rfl, rfl⟩
    rw [dif_pos ⟨sprite.width_pos, sprite.height_pos⟩]

/-- The sprite between two corners; `none` when a side leaves the range or holds no pixel. -/
def between? (left top right bottom : Px) : Option Sprite := do
  let width ← Px.fit? (right.val - left.val)
  let height ← Px.fit? (bottom.val - top.val)
  ofSize? left top width height

def right? (sprite : Sprite) : Option Px := Px.fit? (sprite.left.val + sprite.width.val)

def bottom? (sprite : Sprite) : Option Px := Px.fit? (sprite.top.val + sprite.height.val)

/-- The same sprite moved on the sheet, as to another row of states. -/
def offset? (sprite : Sprite) (dx dy : Px) : Option Sprite := do
  let left ← Px.fit? (sprite.left.val + dx.val)
  let top ← Px.fit? (sprite.top.val + dy.val)
  return { sprite with left := left, top := top }

theorem offset?_eq_some_iff {sprite moved : Sprite} {dx dy : Px} :
    sprite.offset? dx dy = some moved ↔
      moved.left.val = sprite.left.val + dx.val ∧ moved.top.val = sprite.top.val + dy.val ∧
        moved.width = sprite.width ∧ moved.height = sprite.height := by
  simp only [offset?, Option.bind_eq_bind, Option.bind_eq_some_iff, Px.fit?_eq_some_iff,
    Option.pure_def, Option.some.injEq]
  constructor
  · rintro ⟨left, across, top, down, rfl⟩
    exact ⟨across, down, rfl, rfl⟩
  · rintro ⟨across, down, wide, high⟩
    refine ⟨moved.left, across, moved.top, down, ?_⟩
    cases moved
    simp_all

/-- The inner sprite keeps a distance from every edge of the outer one, over the integers. -/
def Inside (inner outer : Sprite) : Prop :=
  outer.left.val < inner.left.val ∧ outer.top.val < inner.top.val ∧
    inner.left.val + inner.width.val < outer.left.val + outer.width.val ∧
    inner.top.val + inner.height.val < outer.top.val + outer.height.val

instance (inner outer : Sprite) : Decidable (inner.Inside outer) :=
  inferInstanceAs (Decidable (_ ∧ _ ∧ _ ∧ _))

/-- Whether the inner sprite lies strictly inside the outer one. Far edges are formed only when the
near edges are in order. -/
def encloses? (outer inner : Sprite) : Option Bool :=
  if inner.left.val ≤ outer.left.val || inner.top.val ≤ outer.top.val then some false
  else do
    if (← outer.right?).val ≤ (← inner.right?).val then return false
    return decide ((← inner.bottom?).val < (← outer.bottom?).val)

theorem inside_of_encloses {outer inner : Sprite} (known : outer.encloses? inner = some true) :
    inner.Inside outer := by
  unfold encloses? at known
  split at known
  · cases known
  · next near =>
    simp only [right?, bottom?, Option.bind_eq_bind, Option.bind_eq_some_iff,
      Px.fit?_eq_some_iff, Option.pure_def] at known
    obtain ⟨outerRight, outerAcross, innerRight, innerAcross, rest⟩ := known
    split at rest
    · cases rest
    · simp only [Option.bind_eq_some_iff, Px.fit?_eq_some_iff, Option.some.injEq,
        decide_eq_true_eq] at rest
      obtain ⟨innerBottom, innerDown, outerBottom, outerDown, below⟩ := rest
      simp only [Bool.or_eq_true, decide_eq_true_eq, not_or] at near
      unfold Inside
      omega

end Sprite

/-- The sprite lies on the sheet, over the integers. -/
def SheetSize.Holds (size : SheetSize) (sprite : Sprite) : Prop :=
  0 ≤ sprite.left.val ∧ 0 ≤ sprite.top.val ∧
    sprite.left.val + sprite.width.val ≤ size.width.toNat ∧
    sprite.top.val + sprite.height.val ≤ size.height.toNat

instance (size : SheetSize) (sprite : Sprite) : Decidable (size.Holds sprite) :=
  inferInstanceAs (Decidable (_ ∧ _ ∧ _ ∧ _))

/-- Whether the sprite lies on the sheet. Far edges are formed only when the near edges lie on
it. -/
def SheetSize.holds? (size : SheetSize) (sprite : Sprite) : Option Bool :=
  if sprite.left.val < 0 || sprite.top.val < 0 then some false
  else do
    if (size.width.toNat : Int) < (← sprite.right?).val then return false
    return decide ((← sprite.bottom?).val ≤ size.height.toNat)

end Handbook
