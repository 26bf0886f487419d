import Handbook.Binary32.Arithmetic
import Handbook.Markup.Paragraph
import Handbook.Text.Font

/-!
Flowing paragraphs in a column. Words fill a line as long as they fit, paragraphs are half a line
apart, and the lines of headers are larger. Rows are counted from the first row of the column.
-/

namespace Handbook

structure FlowLine where
  text : String
  y : Px
  width : Px
  height : Px
  /-- How much larger than the font its characters are drawn. -/
  scale : Binary32
  /-- The level of the header that the line belongs to. -/
  level : Option Nat
deriving DecidableEq

structure Flow where
  lines : List FlowLine := []
  height : Px := 0
deriving DecidableEq, Inhabited

namespace Flow

/-- The scale of a header: two for the first level and a quarter less for each further level, down
to one. -/
def headerScale (level : Nat) : Binary32 :=
  Binary32.larger (2 - Binary32.ofRatio 1 4 * Binary32.ofInt (level - 1 : Nat)) 1

/-- The scale of the lines of a header of some level, or of regular text. -/
def scaleOf : Option Nat → Binary32
  | some level => headerScale level
  | none => 1

/-- A length under a scale, rounded up. -/
def scaled (length : Px) (scale : Binary32) : Px := (Binary32.ofInt length.val * scale).ceiling

/-- A text and its width before scaling: a word as it was measured, or a line being filled. -/
structure Measured where
  text : String
  width : Px
deriving DecidableEq

/-- A paragraph as it was measured. Every width and height is an answer of its own: a word that occurs
twice need not be given the same width. -/
structure Block where
  /-- The level of a header. -/
  level : Option Nat
  /-- The height of a line before scaling. -/
  lineHeight : Px
  words : List Measured
deriving DecidableEq

/-- Fills lines with words. A word goes to the line being filled while both fit the column together,
and starts the next line otherwise; a line without text takes any word. -/
def fill? (column space : Px) (scale : Binary32) (line : Measured) :
    List Measured → Option (List Measured)
  | [] => some [line]
  | word :: rest =>
    if line.text = "" then fill? column space scale word rest
    else do
      let spaced ← Px.fit? (line.width.val + space.val)
      let joined ← Px.fit? (spaced.val + word.width.val)
      if column.val < (scaled joined scale).val then
        return line :: (← fill? column space scale word rest)
      else fill? column space scale ⟨line.text ++ " " ++ word.text, joined⟩ rest

/-- Stacks lines of one height from `y` down; also tells where the next line would start. -/
def stack? (height : Px) (scale : Binary32) (level : Option Nat) (y : Px) :
    List Measured → Option (List FlowLine × Px)
  | [] => some ([], y)
  | line :: rest => do
    let next ← Px.fit? (y.val + height.val)
    let (lines, last) ← stack? height scale level next rest
    return (⟨line.text, y, scaled line.width scale, height, scale, level⟩ :: lines, last)

/-- Flows one paragraph from `y` down. A header without words still takes a line. -/
def block? (column space y : Px) (block : Block) : Option (List FlowLine × Px) := do
  let scale := scaleOf block.level
  let lines ← fill? column space scale ⟨"", 0⟩ block.words
  let shown := lines.filter fun line => line.text != "" || block.level.isSome
  stack? (scaled block.lineHeight scale) scale block.level y shown

/-- Flows further paragraphs, each one gap below the one before it. -/
def further? (column space gap y : Px) : List Block → Option (List FlowLine × Px)
  | [] => some ([], y)
  | block :: rest => do
    let start ← Px.fit? (y.val + gap.val)
    let (lines, next) ← block? column space start block
    let (later, last) ← further? column space gap next rest
    return (lines ++ later, last)

/-- The flow of measured paragraphs in a column. Lines fit the column, except those of a single word
that does not. `none` when a place or a width leaves the pixel range. -/
def ofBlocks? (column space gap : Px) : List Block → Option Flow
  | [] => some {}
  | first :: rest => do
    let (lines, next) ← block? column space 0 first
    let (later, last) ← further? column space gap next rest
    return ⟨lines ++ later, last⟩

def Measured.of? (font : Font) (word : String) : Option Measured := do
  return ⟨word, ← font.width? word⟩

def Block.of? (font : Font) (paragraph : Paragraph) : Option Block := do
  return ⟨paragraph.level?, font.lineHeight, ← paragraph.words.mapM (Measured.of? font)⟩

/-- The space between paragraphs: half a line, toward zero. -/
def gap (font : Font) : Px := font.lineHeight.quotient 2

def ofParagraphs? (font : Font) (column : Px) (paragraphs : List Paragraph) : Option Flow := do
  let space ← font.width? " "
  ofBlocks? column space (gap font) (← paragraphs.mapM (Block.of? font))

end Flow

end Handbook
