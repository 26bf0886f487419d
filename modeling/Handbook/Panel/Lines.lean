import Handbook.Rect

namespace Handbook.Lines

/-- The line from column `left` to column `right` in the `thickness` rows from `y` on. -/
def horizontal? (left right y thickness : Px) : Option Rect := do
  Rect.ofCorners? left y right (← Px.fit? (y.val + thickness.val))

/-- The line from row `top` to row `bottom` in the `thickness` columns from `x` on. -/
def vertical? (x top bottom thickness : Px) : Option Rect := do
  Rect.ofCorners? x top (← Px.fit? (x.val + thickness.val)) bottom

/-- Four lines of one pixel that close around a rectangle: above, below, before and after it. -/
def outline? (rect : Rect) : Option (List Rect) := do
  let before ← Px.fit? (rect.left.val - 1)
  let above ← Px.fit? (rect.top.val - 1)
  let right ← rect.right?
  let bottom ← rect.bottom?
  let after ← Px.fit? (right.val + 1)
  let below ← Px.fit? (bottom.val + 1)
  return [← horizontal? before right above 1, ← horizontal? rect.left after bottom 1,
    ← vertical? before rect.top below 1, ← vertical? right above bottom 1]

/-- A plus of two lines beside the tip of a cursor. -/
def linkMark? (x y : Px) : Option (List Rect) := do
  let upright ← vertical? (← Px.fit? (x.val + 3)) (← Px.fit? (y.val - 5)) (← Px.fit? (y.val - 2)) 1
  let level ← horizontal? (← Px.fit? (x.val + 2)) (← Px.fit? (x.val + 5)) (← Px.fit? (y.val - 4)) 1
  return [upright, level]

end Handbook.Lines
