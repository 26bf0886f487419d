import Handbook.Sheet.NineSlice
import Handbook.Tiling.Patch

/-!
Bordered panels. A panel is a fill over its inner rectangle and, around it, four corners and four
edges of border art; the border art is stretched, the fill is stretched or repeated.
-/

namespace Handbook

structure Panel where
  outer : Rect
  /-- The width of the border art, and so the side of the square pieces in its corners. -/
  corner : Px
  /-- The margin that the fill leaves on every side. -/
  inset : Px
  zFill : Binary32
  zBorder : Binary32
deriving DecidableEq

/-- How a fill covers its rectangle: stretched once, or repeated at its own size. -/
inductive Fill where
  | stretched
  | repeated (phase : Px × Px)
deriving DecidableEq

structure PanelArt where
  border : NineSlice
  background : Sprite
  fill : Fill
deriving DecidableEq

namespace Panel

def fillRect? (panel : Panel) : Option Rect := panel.outer.inset? panel.inset

/-- The first column of the right border. -/
def farColumn? (panel : Panel) : Option Px := do
  Px.fit? ((← panel.outer.right?).val - panel.corner.val)

/-- The first row of the bottom border. -/
def farRow? (panel : Panel) : Option Px := do
  Px.fit? ((← panel.outer.bottom?).val - panel.corner.val)

/-- The first column past the left border. -/
def nearColumn? (panel : Panel) : Option Px := Px.fit? (panel.outer.left.val + panel.corner.val)

/-- The first row past the top border. -/
def nearRow? (panel : Panel) : Option Px := Px.fit? (panel.outer.top.val + panel.corner.val)

def cornerRect? (panel : Panel) (corner : Corner) : Option Rect := do
  let left ←
    match corner with
    | .topLeft | .bottomLeft => pure panel.outer.left
    | .topRight | .bottomRight => panel.farColumn?
  let top ←
    match corner with
    | .topLeft | .topRight => pure panel.outer.top
    | .bottomLeft | .bottomRight => panel.farRow?
  return Rect.ofSize left top panel.corner panel.corner

/-- The rectangle of an edge piece: the border between two corners. -/
def edgeRect? (panel : Panel) : Edge → Option Rect
  | .top => do
    Rect.ofCorners? (← panel.nearColumn?) panel.outer.top (← panel.farColumn?) (← panel.nearRow?)
  | .bottom => do
    Rect.ofCorners? (← panel.nearColumn?) (← panel.farRow?) (← panel.farColumn?)
      (← panel.outer.bottom?)
  | .left => do
    Rect.ofCorners? panel.outer.left (← panel.nearRow?) (← panel.nearColumn?) (← panel.farRow?)
  | .right => do
    Rect.ofCorners? (← panel.farColumn?) (← panel.nearRow?) (← panel.outer.right?)
      (← panel.farRow?)

def fill? (panel : Panel) (art : PanelArt) : Option (List Patch) := do
  let rect ← panel.fillRect?
  match art.fill with
  | .stretched => Patch.stretch? rect art.background panel.zFill
  | .repeated phase => Patch.tiling? rect art.background panel.zFill phase

def cornerPatch? (panel : Panel) (art : PanelArt) (corner : Corner) : Option (List Patch) := do
  Patch.stretch? (← panel.cornerRect? corner) (← art.border.corner? corner) panel.zBorder

def edgePatch? (panel : Panel) (art : PanelArt) (edge : Edge) : Option (List Patch) := do
  Patch.stretch? (← panel.edgeRect? edge) (← art.border.edge? edge) panel.zBorder

/-- The patches of the border: the corners, then the edges. -/
def border? (panel : Panel) (art : PanelArt) : Option (List Patch) := do
  let corners ← Corner.all.mapM (panel.cornerPatch? art)
  let edges ← Edge.all.mapM (panel.edgePatch? art)
  return corners.flatten ++ edges.flatten

/-- The patches of the whole panel, the fill first. -/
def patches? (panel : Panel) (art : PanelArt) : Option (List Patch) := do
  return (← panel.fill? art) ++ (← panel.border? art)

end Panel

end Handbook
