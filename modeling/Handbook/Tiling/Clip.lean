import Handbook.Draw.Quad

namespace Handbook

/-- The part of an image that shows: its rectangle and the distances of its edges from the image's
near corner. -/
structure Clip where
  shown : Rect
  fromLeft : Px
  fromTop : Px
  toRight : Px
  toBottom : Px
deriving DecidableEq

namespace Clip

/-- The part of `body` inside `visible`, or nothing when no pixel of it shows. -/
def of? (body visible : Rect) : Option (Option Clip) := do
  let shown ← body.overlap? visible
  if shown.isEmpty then return none
  let fromLeft ← Px.fit? (shown.left.val - body.left.val)
  let fromTop ← Px.fit? (shown.top.val - body.top.val)
  let toRight ← Px.fit? ((← shown.right?).val - body.left.val)
  let toBottom ← Px.fit? ((← shown.bottom?).val - body.top.val)
  return some ⟨shown, fromLeft, fromTop, toRight, toBottom⟩

def quad? (body : Rect) (z : Binary32) (clip : Clip) : Option Quad :=
  let width := Binary32.ofInt body.width.val
  let height := Binary32.ofInt body.height.val
  Quad.over? clip.shown z
    (Binary32.ofInt clip.fromLeft.val / width) (Binary32.ofInt clip.fromTop.val / height)
    (Binary32.ofInt clip.toRight.val / width) (Binary32.ofInt clip.toBottom.val / height)

end Clip

/-- The visible part of an image as a quad, or nothing when no pixel of it shows. -/
def Quad.clip? (body visible : Rect) (z : Binary32) : Option (Option Quad) := do
  match ← Clip.of? body visible with
  | none => return none
  | some clip => return some (← clip.quad? body z)

end Handbook
