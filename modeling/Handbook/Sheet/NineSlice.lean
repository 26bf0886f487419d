import Handbook.Fault

namespace Handbook

inductive Corner where
  | topLeft
  | topRight
  | bottomLeft
  | bottomRight
deriving DecidableEq

def Corner.all : List Corner := [.topLeft, .topRight, .bottomLeft, .bottomRight]

inductive Edge where
  | top
  | bottom
  | left
  | right
deriving DecidableEq

def Edge.all : List Edge := [.top, .bottom, .left, .right]

/-- A sprite together with a smaller one strictly inside it. -/
structure NineSlice where
  outer : Sprite
  inner : Sprite
  inside : inner.Inside outer
deriving DecidableEq

namespace NineSlice

/-- The nine-slice of two sprites, the inner one strictly inside the outer one. -/
def of (outer inner : Sprite) : Except Fault NineSlice :=
  match known : outer.encloses? inner with
  | none => .error .overflow
  | some false => .error .looseNineSlice
  | some true => .ok ⟨outer, inner, Sprite.inside_of_encloses known⟩

/-- The nine-slice with the same border on every side. -/
def uniform (outer : Sprite) (thickness : Px) : Except Fault NineSlice := do
  let left ← Fault.ofOption (Px.fit? (outer.left.val + thickness.val))
  let top ← Fault.ofOption (Px.fit? (outer.top.val + thickness.val))
  let both ← Fault.ofOption (Px.fit? (2 * thickness.val))
  let width ← Fault.ofOption (Px.fit? (outer.width.val - both.val))
  let height ← Fault.ofOption (Px.fit? (outer.height.val - both.val))
  of outer (← Sprite.of left top width height)

def offset? (slice : NineSlice) (dx dy : Px) : Option NineSlice :=
  match outerMoved : slice.outer.offset? dx dy, innerMoved : slice.inner.offset? dx dy with
  | some outer, some inner => some
      { outer := outer
        inner := inner
        inside := by
          obtain ⟨outerAcross, outerDown, outerWide, outerHigh⟩ :=
            Sprite.offset?_eq_some_iff.mp outerMoved
          obtain ⟨innerAcross, innerDown, innerWide, innerHigh⟩ :=
            Sprite.offset?_eq_some_iff.mp innerMoved
          have inside := slice.inside
          unfold Sprite.Inside at inside ⊢
          rw [outerWide, outerHigh, innerWide, innerHigh]
          omega }
  | _, _ => none

def corner? (slice : NineSlice) : Corner → Option Sprite
  | .topLeft =>
    Sprite.between? slice.outer.left slice.outer.top slice.inner.left slice.inner.top
  | .topRight => do
    Sprite.between? (← slice.inner.right?) slice.outer.top (← slice.outer.right?) slice.inner.top
  | .bottomLeft => do
    Sprite.between? slice.outer.left (← slice.inner.bottom?) slice.inner.left
      (← slice.outer.bottom?)
  | .bottomRight => do
    Sprite.between? (← slice.inner.right?) (← slice.inner.bottom?) (← slice.outer.right?)
      (← slice.outer.bottom?)

/-- The part of the border art along an edge, without the corners. -/
def edge? (slice : NineSlice) : Edge → Option Sprite
  | .top => do
    Sprite.between? slice.inner.left slice.outer.top (← slice.inner.right?) slice.inner.top
  | .bottom => do
    Sprite.between? slice.inner.left (← slice.inner.bottom?) (← slice.inner.right?)
      (← slice.outer.bottom?)
  | .left => do
    Sprite.between? slice.outer.left slice.inner.top slice.inner.left (← slice.inner.bottom?)
  | .right => do
    Sprite.between? (← slice.inner.right?) slice.inner.top (← slice.outer.right?)
      (← slice.inner.bottom?)

end NineSlice

end Handbook
