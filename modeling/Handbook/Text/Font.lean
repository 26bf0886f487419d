import Handbook.Binary32.Whole

namespace Handbook

structure Font where
  /-- The width of a text on one line, or `none` when it leaves the pixel range. -/
  width? : String → Option Px
  lineHeight : Px

namespace Font

/-- A font whose characters all have the same width. The count of characters is taken modulo the
pixel range. -/
def cells (advance lineHeight : Px) : Font where
  width? text := Px.fit? ((Px.wrap text.length).val * advance.val)
  lineHeight := lineHeight

/-- The cell font of the shipped sheet: six by twelve pixels. -/
def standard : Font := cells 6 12

instance : Inhabited Font := ⟨standard⟩

/-- Adds the widths of characters from left to right. -/
def sumWidths? (charWidth : Char → Px) (total : Px) : List Char → Option Px
  | [] => some total
  | char :: rest => do sumWidths? charWidth (← Px.fit? (total.val + (charWidth char).val)) rest

/-- A font in which the width of a text is the sum over its characters. -/
def proportional (charWidth : Char → Px) (lineHeight : Px) : Font where
  width? text := sumWidths? charWidth 0 text.toList
  lineHeight := lineHeight

/-- A font that asks its host to measure every text but the empty one, and whose line height is a
number of single precision rounded up. -/
def shaped (measure : String → Px) (lineHeight : Binary32) : Font where
  width? text := if text = "" then some 0 else some (measure text)
  lineHeight := lineHeight.ceiling

end Font

end Handbook
