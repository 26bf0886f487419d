import Handbook.Binary32.Arithmetic
import Handbook.Binary32.Whole
import Handbook.Rect

namespace Handbook

/-- A textured rectangle. The texture coordinates are shares of the texture's size; `z` is a hint
for ordering. -/
structure Quad where
  left : Binary32
  top : Binary32
  right : Binary32
  bottom : Binary32
  z : Binary32
  uLeft : Binary32
  vTop : Binary32
  uRight : Binary32
  vBottom : Binary32
deriving DecidableEq

/-- A corner of a quad: its place and its texture coordinates. -/
structure Vertex where
  x : Binary32
  y : Binary32
  z : Binary32
  u : Binary32
  v : Binary32
deriving DecidableEq

namespace Quad

/-- The quad over a rectangle with these texture coordinates. -/
def over? (dest : Rect) (z uLeft vTop uRight vBottom : Binary32) : Option Quad := do
  let right ← dest.right?
  let bottom ← dest.bottom?
  return {
    left := Binary32.ofInt dest.left.val
    top := Binary32.ofInt dest.top.val
    right := Binary32.ofInt right.val
    bottom := Binary32.ofInt bottom.val
    z := z
    uLeft := uLeft
    vTop := vTop
    uRight := uRight
    vBottom := vBottom }

def width (quad : Quad) : Binary32 := quad.right - quad.left

def height (quad : Quad) : Binary32 := quad.bottom - quad.top

/-- The rectangle of the screen between the quad's corners, fractions dropped. -/
def rect? (quad : Quad) : Option Rect :=
  Rect.ofCorners? quad.left.truncate quad.top.truncate quad.right.truncate quad.bottom.truncate

/-- The corners: bottom left, bottom right, top right, top left. -/
def vertices (quad : Quad) : List Vertex :=
  [⟨quad.left, quad.bottom, quad.z, quad.uLeft, quad.vBottom⟩,
    ⟨quad.right, quad.bottom, quad.z, quad.uRight, quad.vBottom⟩,
    ⟨quad.right, quad.top, quad.z, quad.uRight, quad.vTop⟩,
    ⟨quad.left, quad.top, quad.z, quad.uLeft, quad.vTop⟩]

end Quad

end Handbook
