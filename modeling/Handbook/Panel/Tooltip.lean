import Handbook.Rect

namespace Handbook.Tooltip

/-- The space between the border of a tooltip and its text box, and between the box and the text. -/
def padding : Px := 4

/-- The box of a tooltip and its text box, for a cursor column `x` and a first row `y`. A box that
sticks out on the right moves left until it ends with the screen; one that then sticks out on the
left moves to column zero. The second rule decides for a box that the screen cannot hold. -/
def bounds? (textWidth lineHeight x y screenWidth : Px) : Option (Rect × Rect) := do
  let width ← Px.fit? (textWidth.val + 2 * padding.val)
  let middle ← Px.fit? (x.val - (width.quotient 2).val)
  let left ← Px.fit? (middle.val - padding.val)
  let outerWidth ← Px.fit? (width.val + 2 * padding.val)
  let outerHeight ← Px.fit? (lineHeight.val + 2 * padding.val)
  let centred := Rect.ofSize left y outerWidth outerHeight
  let right ← centred.right?
  let pulled ←
    if screenWidth.val < right.val then do
      centred.translate? (← Px.fit? (screenWidth.val - right.val)) 0
    else pure centred
  let outer ←
    if pulled.left.val < 0 then do
      pulled.translate? (← Px.fit? (-pulled.left.val)) 0
    else pure pulled
  let innerLeft ← Px.fit? (outer.left.val + padding.val)
  let innerTop ← Px.fit? (outer.top.val + padding.val)
  return (outer, Rect.ofSize innerLeft innerTop width lineHeight)

end Handbook.Tooltip
