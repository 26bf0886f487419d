import Handbook.Sheet.NineSlice

namespace Handbook

namespace Artwork

def texture : UInt32 := 0

/-- The book frame: a border of 16 pixels and a shadow of 6. -/
def frame : NineSlice :=
  ⟨⟨0, 0, 64, 64, by decide, by decide⟩, ⟨22, 22, 20, 20, by decide, by decide⟩, by decide⟩

def paper : Sprite := ⟨64, 0, 32, 32, by decide, by decide⟩

def separator : Sprite := ⟨96, 33, 16, 30, by decide, by decide⟩

/-- The fill of buttons; the rows of the other states follow below it. -/
def buttonFill : Sprite := ⟨64, 32, 32, 32, by decide, by decide⟩

/-- The border of buttons; the rows of the other states follow below it. -/
def buttonBorder : NineSlice :=
  ⟨⟨0, 64, 16, 16, by decide, by decide⟩, ⟨2, 66, 12, 12, by decide, by decide⟩, by decide⟩

def tooltip : NineSlice :=
  ⟨⟨112, 32, 16, 16, by decide, by decide⟩, ⟨116, 36, 8, 8, by decide, by decide⟩, by decide⟩

def homeIcon : Sprite := ⟨128, 0, 16, 16, by decide, by decide⟩

/-- The icon for a new bookmark. Each further state is one icon width to the right. -/
def addIcon : Sprite := ⟨192, 0, 16, 16, by decide, by decide⟩

/-- The base sprites in the order of checking. -/
def sprites : List Sprite :=
  [frame.outer, paper, separator, buttonFill, buttonBorder.outer, tooltip.outer, homeIcon, addIcon]

end Artwork

/-- A sheet on which every base sprite of the screen lies. -/
structure Artwork where
  size : SheetSize
  holds : ∀ sprite ∈ Artwork.sprites, size.Holds sprite
deriving DecidableEq

/-- The artwork on a sheet of this size, or the first base sprite that does not lie on it. -/
def Artwork.of (size : SheetSize) : Except Fault Artwork :=
  match outside : Artwork.sprites.find? (fun sprite => !decide (size.Holds sprite)) with
  | some sprite => .error (.outsideSheet sprite size)
  | none => .ok
      { size := size
        holds := fun sprite member => by
          have inside := List.find?_eq_none.mp outside sprite member
          simpa using inside }

end Handbook
