import Handbook.Px

/-!
Rectangles of the screen. A rectangle holds its near corner and a size that is never negative; the
far edges are sums, so asking for them can leave the pixel range.
-/

namespace Handbook

/-- An axis-aligned rectangle: its left and top edge and a size that is not negative. -/
structure Rect where
  left : Px
  top : Px
  width : Px
  height : Px
  width_nonneg : 0 ≤ width.val
  height_nonneg : 0 ≤ height.val
deriving DecidableEq

namespace Rect

/-- The rectangle of a near corner and a size; a negative side counts as zero. -/
def ofSize (left top width height : Px) : Rect where
  left := left
  top := top
  width := max width 0
  height := max height 0
  width_nonneg := by rw [Px.val_max, Px.val_zero]; omega
  height_nonneg := by rw [Px.val_max, Px.val_zero]; omega

def empty : Rect := ofSize 0 0 0 0

instance : Inhabited Rect := ⟨empty⟩

/-- The rectangle from one corner up to another. A side whose end comes before its start counts as
zero. -/
def ofCorners? (left top right bottom : Px) : Option Rect := do
  let width ← Px.fit? (right.val - left.val)
  let height ← Px.fit? (bottom.val - top.val)
  return ofSize left top width height

/-- The first column past the rectangle. -/
def right? (rect : Rect) : Option Px := Px.fit? (rect.left.val + rect.width.val)

/-- The first row past the rectangle. -/
def bottom? (rect : Rect) : Option Px := Px.fit? (rect.top.val + rect.height.val)

def area (rect : Rect) : Int := rect.width.val * rect.height.val

def isEmpty (rect : Rect) : Bool := rect.width.val == 0 || rect.height.val == 0

def moveTo (rect : Rect) (left top : Px) : Rect := { rect with left := left, top := top }

def resize (rect : Rect) (width height : Px) : Rect := ofSize rect.left rect.top width height

def translate? (rect : Rect) (dx dy : Px) : Option Rect := do
  let left ← Px.fit? (rect.left.val + dx.val)
  let top ← Px.fit? (rect.top.val + dy.val)
  return rect.moveTo left top

/-- The rectangle without a margin of `amount` pixels; a side that the margins use up is zero. -/
def inset? (rect : Rect) (amount : Px) : Option Rect := do
  let left ← Px.fit? (rect.left.val + amount.val)
  let top ← Px.fit? (rect.top.val + amount.val)
  let both ← Px.fit? (2 * amount.val)
  let width ← Px.fit? (rect.width.val - both.val)
  let height ← Px.fit? (rect.height.val - both.val)
  return ofSize left top width height

/-- The pixels that two rectangles have in common, as a rectangle. It starts where the later of the
two starts, also when there are no such pixels. -/
def overlap? (rect other : Rect) : Option Rect := do
  let right := min (← rect.right?) (← other.right?)
  let bottom := min (← rect.bottom?) (← other.bottom?)
  ofCorners? (max rect.left other.left) (max rect.top other.top) right bottom

def intersects? (rect other : Rect) : Option Bool := do
  return !(← rect.overlap? other).isEmpty

/-- Whether the point lies in the rectangle: near edges belong to it, far edges do not. A far edge
is formed only when the near edges have not settled the question. -/
def contains? (rect : Rect) (x y : Px) : Option Bool :=
  if x.val < rect.left.val then some false
  else do
    let right ← rect.right?
    if right.val ≤ x.val || y.val < rect.top.val then return false
    let bottom ← rect.bottom?
    return decide (y.val < bottom.val)

/-- The pixel at `x`, `y` belongs to the rectangle, over the integers. -/
def Covers (rect : Rect) (x y : Int) : Prop :=
  rect.left.val ≤ x ∧ x < rect.left.val + rect.width.val ∧
    rect.top.val ≤ y ∧ y < rect.top.val + rect.height.val

instance (rect : Rect) (x y : Int) : Decidable (rect.Covers x y) :=
  inferInstanceAs (Decidable (_ ∧ _ ∧ _ ∧ _))

@[simp]
theorem val_width_ofSize (left top width height : Px) :
    (ofSize left top width height).width.val = max width.val 0 := Px.val_max _ _

@[simp]
theorem val_height_ofSize (left top width height : Px) :
    (ofSize left top width height).height.val = max height.val 0 := Px.val_max _ _

theorem isEmpty_iff {rect : Rect} : rect.isEmpty = true ↔ ∀ x y, ¬ rect.Covers x y := by
  have wide := rect.width_nonneg
  have high := rect.height_nonneg
  simp only [isEmpty, Bool.or_eq_true, beq_iff_eq, Covers]
  constructor
  · intro flat x y inside
    omega
  · intro none
    have corner := none rect.left.val rect.top.val
    omega

end Rect

end Handbook
