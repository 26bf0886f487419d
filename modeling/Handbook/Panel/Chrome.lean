import Handbook.Draw.DrawList
import Handbook.Draw.Layer
import Handbook.Panel.Basic
import Handbook.Panel.Tooltip
import Handbook.Sheet.Artwork
import Handbook.Text.Font

namespace Handbook

inductive ButtonState where
  | normal
  | hovered
  | disabled
deriving DecidableEq

namespace ButtonState

/-- The look of a button that is enabled or not and under the cursor or not; a disabled one ignores
the cursor. -/
def ofFlags (enabled hovered : Bool) : ButtonState :=
  if enabled then if hovered then .hovered else .normal else .disabled

/-- The row of the art for this look, below the base sprite. -/
def row : ButtonState → Px
  | .normal => 0
  | .hovered => 1
  | .disabled => 2

end ButtonState

namespace Artwork

def quads? (art : Artwork) (patches : List Patch) : Option (List Quad) :=
  Patch.quads? art.size patches

/-- The panel of the book frame: paper under the border art, which is as wide as border and shadow
together. -/
def framePanel? (outer : Rect) (settings : Settings) : Option Panel := do
  let corner ← settings.frameCorner?
  return ⟨outer, corner, settings.borderThickness, Layer.paper.depth, Layer.frame.depth⟩

def frameArt (settings : Settings) : PanelArt :=
  ⟨frame, paper, .repeated settings.backgroundPhase⟩

/-- The paper and the border of the book frame, kept apart so that page text can go between. -/
def bookFrame? (outer : Rect) (settings : Settings) : Option (List Patch × List Patch) := do
  let panel ← framePanel? outer settings
  let paper ← panel.fill? (frameArt settings)
  let border ← panel.border? (frameArt settings)
  return (paper, border)

/-- The art of a button: the base sprites moved down by one sprite height for each row. -/
def buttonArt? (state : ButtonState) (phase : Px × Px) : Option PanelArt := do
  let borderDown ← Px.fit? (state.row.val * buttonBorder.outer.height.val)
  let fillDown ← Px.fit? (state.row.val * buttonFill.height.val)
  let border ← buttonBorder.offset? 0 borderDown
  let fill ← buttonFill.offset? 0 fillDown
  return ⟨border, fill, .repeated phase⟩

/-- A button or a tab over a rectangle. -/
def button? (rect : Rect) (z : Binary32) (state : ButtonState) (phase : Px × Px) (border : Px) :
    Option (List Patch) := do
  Panel.patches? ⟨rect, border, border, z, z⟩ (← buttonArt? state phase)

def icon? (rect : Rect) (sprite : Sprite) (z : Binary32) : Option (List Patch) :=
  Patch.stretch? rect sprite z

def tooltipPanel (outer : Rect) : Panel :=
  ⟨outer, Tooltip.padding, Tooltip.padding, Layer.tooltip.depth, Layer.tooltip.depth⟩

def tooltipArt : PanelArt := ⟨tooltip, tooltip.inner, .stretched⟩

/-- The bar that parts the page from the rail. Over the area the sprite is stretched; the rows just
outside the area take the rows just outside the sprite. -/
def separatorBar? (area : Rect) : Option (List Patch) :=
  if area.isEmpty then some []
  else do
    let right ← area.right?
    let bottom ← area.bottom?
    let uRight ← separator.right?
    let vBottom ← separator.bottom?
    let above ← Px.fit? (area.top.val - 1)
    let below ← Px.fit? (bottom.val + 1)
    let vAbove ← Px.fit? (separator.top.val - 1)
    let vBelow ← Px.fit? (vBottom.val + 1)
    let upperCap ← Rect.ofCorners? area.left above right area.top
    let lowerCap ← Rect.ofCorners? area.left bottom right below
    let z := Layer.frame.depth
    return [⟨upperCap, z, separator.left, vAbove, uRight, separator.top⟩,
      ⟨area, z, separator.left, separator.top, uRight, vBottom⟩,
      ⟨lowerCap, z, separator.left, vBottom, uRight, vBelow⟩]

end Artwork

structure Tooltip where
  outer : Rect
  inner : Rect
  patches : List Patch
  label : Label
deriving DecidableEq

/-- The tooltip of a text for a cursor column `x` and a first row `y`. -/
def Tooltip.of? (text : String) (x y screenWidth : Px) (font : Font) : Option Tooltip := do
  let textWidth ← font.width? text
  let (outer, inner) ← Tooltip.bounds? textWidth font.lineHeight x y screenWidth
  let patches ← (Artwork.tooltipPanel outer).patches? Artwork.tooltipArt
  let labelX ← Px.fit? (inner.left.val + Tooltip.padding.val)
  let labelY ← Px.fit? (inner.top.val + 1)
  return ⟨outer, inner, patches, Label.plain text labelX labelY Layer.tooltip.depth noTint⟩

end Handbook
