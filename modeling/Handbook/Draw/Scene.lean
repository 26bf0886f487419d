import Handbook.Draw.DrawList
import Handbook.Tiling.Patch

/-!
Scenes. A scene is what a frame shows before its sprites become quads: parts in paint order, with
sprites still in whole pixels of the screen and of the sheet.
-/

namespace Handbook

inductive Part where
  /-- Patches of the sheet under a tint. -/
  | sprites (tint : UInt32) (patches : List Patch)
  /-- Rectangles of one colour. -/
  | fill (color : UInt32) (z : Binary32) (rects : List Rect)
  | label (text : Label)
deriving DecidableEq

namespace Part

/-- Adds a part to a draw list; sprites become quads of the texture. -/
def draw? (texture : UInt32) (size : SheetSize) (list : DrawList) : Part → Option DrawList
  | .sprites tint patches => do
    return list.addTextured texture tint (← Patch.quads? size patches)
  | .fill color z rects => some (list.addSolid color z rects)
  | .label text => some (list.addText text)

end Part

def DrawList.ofScene? (texture : UInt32) (size : SheetSize) (scene : List Part) : Option DrawList :=
  scene.foldlM (Part.draw? texture size) {}

end Handbook
