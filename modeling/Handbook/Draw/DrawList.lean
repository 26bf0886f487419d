import Handbook.Draw.Quad

/-!
The draw list of a frame: commands in paint order, one draw call each. What is added joins the last
command when both could be one draw call.
-/

namespace Handbook

/-- The colour that leaves a texture as it is. -/
def noTint : UInt32 := 0xFFFFFF

/-- A text for the host to draw. -/
structure Label where
  text : String
  x : Px
  y : Px
  z : Binary32
  color : UInt32
  shadow : Bool
  scale : Binary32
deriving DecidableEq

def Label.plain (text : String) (x y : Px) (z : Binary32) (color : UInt32) : Label :=
  ⟨text, x, y, z, color, false, 1⟩

/-- One draw call. -/
inductive Command where
  /-- Quads of one texture, multiplied by a tint. -/
  | textured (texture tint : UInt32) (quads : List Quad)
  /-- Rectangles of one colour. -/
  | solid (color : UInt32) (z : Binary32) (rects : List Rect)
  | text (label : Label)
deriving DecidableEq

/-- The draw call that paints both commands in order, if there is one. Quads can be drawn together
when texture and tint agree, rectangles when colour and depth do. -/
def Command.join? : Command → Command → Option Command
  | .textured texture tint quads, .textured texture' tint' more =>
    if texture = texture' ∧ tint = tint' then some (.textured texture tint (quads ++ more)) else none
  | .solid color z rects, .solid color' z' more =>
    if color = color' ∧ z.agrees z' then some (.solid color z (rects ++ more)) else none
  | _, _ => none

/-- The commands of a frame in paint order. -/
structure DrawList where
  commands : List Command := []
deriving DecidableEq, Inhabited

/-- How much a frame draws. A host that counts in 32 bits has these totals as long as each of them is
below `UInt32.size`. -/
structure DrawList.Stats where
  quads : Nat := 0
  solids : Nat := 0
  texts : Nat := 0
  calls : Nat := 0
deriving DecidableEq, Inhabited

namespace DrawList

/-- The commands followed by one more, which joins the last of them if it can. -/
def extend (command : Command) : List Command → List Command
  | [] => [command]
  | [last] =>
    match last.join? command with
    | some joined => [joined]
    | none => [last, command]
  | first :: next :: rest => first :: extend command (next :: rest)

/-- Adds textured quads; no quads add nothing. -/
def addTextured (list : DrawList) (texture tint : UInt32) (quads : List Quad) : DrawList :=
  if quads.isEmpty then list else ⟨extend (.textured texture tint quads) list.commands⟩

/-- Adds rectangles of one colour; empty ones are left out. -/
def addSolid (list : DrawList) (color : UInt32) (z : Binary32) (rects : List Rect) : DrawList :=
  let shown := rects.filter fun rect => !rect.isEmpty
  if shown.isEmpty then list else ⟨extend (.solid color z shown) list.commands⟩

/-- Adds a text; an empty one adds nothing. -/
def addText (list : DrawList) (label : Label) : DrawList :=
  if label.text = "" then list else ⟨extend (.text label) list.commands⟩

def quads (list : DrawList) : List Quad :=
  list.commands.flatMap fun
    | .textured _ _ quads => quads
    | _ => []

def labels (list : DrawList) : List Label :=
  list.commands.filterMap fun
    | .text label => some label
    | _ => none

def Stats.count (stats : Stats) : Command → Stats
  | .textured _ _ quads =>
    { stats with quads := stats.quads + quads.length, calls := stats.calls + 1 }
  | .solid _ _ rects =>
    { stats with solids := stats.solids + rects.length, calls := stats.calls + 1 }
  | .text _ => { stats with texts := stats.texts + 1, calls := stats.calls + 1 }

def stats (list : DrawList) : Stats := list.commands.foldl Stats.count {}

end DrawList

end Handbook
