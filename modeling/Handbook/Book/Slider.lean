import Handbook.Binary32.Arithmetic
import Handbook.Binary32.Whole
import Handbook.Rect

namespace Handbook.Slider

/-- The thumb for a progress: it travels over what the rail leaves free. -/
def thumb? (rail : Rect) (thumbHeight : Px) (progress : Binary32) : Option Rect := do
  let travel := max (← Px.fit? (rail.height.val - thumbHeight.val)) 0
  let moved := (progress.clampUnit * Binary32.ofInt travel.val).round
  let top ← Px.fit? (rail.top.val + moved.val)
  return Rect.ofSize rail.left top rail.width (min thumbHeight rail.height)

/-- The progress for which the middle of the thumb is in row `y`, as far as the thumb can go there. A
thumb that fills the rail has no progress. -/
def progress? (rail : Rect) (thumbHeight y : Px) : Option Binary32 := do
  let travel ← Px.fit? (rail.height.val - thumbHeight.val)
  if travel.val ≤ 0 then return 0
  let below ← Px.fit? (y.val - rail.top.val)
  let top ← Px.fit? (below.val - (thumbHeight.quotient 2).val)
  return (Binary32.ofInt top.val / Binary32.ofInt travel.val).clampUnit

end Handbook.Slider
