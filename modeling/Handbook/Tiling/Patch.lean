import Handbook.Draw.Quad
import Handbook.Sheet.Sprite
import Handbook.Tiling.Span

/-!
Covering rectangles with sprites. A patch is one cell of the screen and the pixels of the sheet that
it samples, both in whole pixels; a quad is its single-precision form on a sheet of a known size.
-/

namespace Handbook

/-- A cell of the screen and the columns and rows of the sheet that it samples. -/
structure Patch where
  cell : Rect
  z : Binary32
  uLeft : Px
  vTop : Px
  uRight : Px
  vBottom : Px
deriving DecidableEq

namespace Patch

def quad? (size : SheetSize) (patch : Patch) : Option Quad :=
  Quad.over? patch.cell patch.z
    (Binary32.ofInt patch.uLeft.val * size.columnShare)
    (Binary32.ofInt patch.vTop.val * size.rowShare)
    (Binary32.ofInt patch.uRight.val * size.columnShare)
    (Binary32.ofInt patch.vBottom.val * size.rowShare)

def quads? (size : SheetSize) (patches : List Patch) : Option (List Quad) :=
  patches.mapM (quad? size)

/-- The sprite stretched once over the destination; nothing for an empty destination. -/
def stretch? (dest : Rect) (sprite : Sprite) (z : Binary32) : Option (List Patch) :=
  if dest.isEmpty then some []
  else do
    let uRight ← sprite.right?
    let vBottom ← sprite.bottom?
    return [⟨dest, z, sprite.left, sprite.top, uRight, vBottom⟩]

/-- The cell where a column and a row of spans meet. -/
def cell? (dest : Rect) (sprite : Sprite) (z : Binary32) (row : Span) (vTop : Px) (column : Span) :
    Option Patch := do
  let uLeft ← Px.fit? (sprite.left.val + column.source.val)
  let left ← Px.fit? (dest.left.val + column.offset.val)
  let top ← Px.fit? (dest.top.val + row.offset.val)
  let uRight ← Px.fit? (uLeft.val + column.length.val)
  let vBottom ← Px.fit? (vTop.val + row.length.val)
  return ⟨Rect.ofSize left top column.length row.length, z, uLeft, vTop, uRight, vBottom⟩

/-- The cells of a row, from left to right. -/
def row? (dest : Rect) (sprite : Sprite) (z : Binary32) (columns : List Span) (row : Span) :
    Option (List Patch) := do
  let vTop ← Px.fit? (sprite.top.val + row.source.val)
  columns.mapM (cell? dest sprite z row vTop)

/-- The sprite repeated over the destination at its own size, row by row from the top. -/
def tiling? (dest : Rect) (sprite : Sprite) (z : Binary32) (phase : Px × Px) :
    Option (List Patch) := do
  let columns ← Span.cut? dest.width sprite.width phase.1
  let rows ← Span.cut? dest.height sprite.height phase.2
  return (← rows.mapM (row? dest sprite z columns)).flatten

end Patch

end Handbook
