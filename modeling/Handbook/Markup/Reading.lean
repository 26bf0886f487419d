import Handbook.Markup.Paragraph
import Handbook.Text.Blank

/-!
Reading page text. A header line starts with `#` marks, blank lines part paragraphs, neighbouring
text lines make one paragraph, and a backslash at the end of a line joins the next line to it.
-/

namespace Handbook.Markup

open Text

/-- The words of a line: its pieces between spaces that are not blank. -/
def wordsOf (line : List Char) : List String :=
  ((pieces ' ' line).filter fun piece => !allBlank piece).map String.ofList

/-- Lines after continuation: one that ends in a backslash loses it and runs on into the next line. At
the end of the text there is no next line, and a line of which nothing is left is none. -/
def joinContinued (lines : List (List Char)) : List (List Char) :=
  lines.foldr
    (fun line later =>
      if line.getLast? = some '\\' then
        match later with
        | [] => if line.dropLast.isEmpty then [] else [line.dropLast]
        | next :: rest => (line.dropLast ++ next) :: rest
      else line :: later)
    []

/-- The lines of a text after joining. -/
def logicalLines (text : List Char) : List (List Char) := joinContinued (pieces '\n' text)

/-- What a line contributes to its page. -/
inductive Line where
  | blank
  | header (level : Nat) (words : List String)
  /-- Text without the blanks at its ends. -/
  | text (content : List Char)
deriving DecidableEq

/-- Reads a line: blank, a header whose level counts its leading `#` marks, or text. -/
def Line.ofChars (line : List Char) : Line :=
  match trimStart line with
  | [] => .blank
  | '#' :: rest =>
    .header (1 + (rest.takeWhile (· == '#')).length) (wordsOf (rest.dropWhile (· == '#')))
  | first :: rest => .text (trimEnd (first :: rest))

/-- The text gathered from a run of text lines with one more line behind it, a space between. -/
def extend (gathered content : List Char) : List Char :=
  if gathered.isEmpty then content else gathered ++ ' ' :: content

/-- The paragraph of the text gathered from a run of text lines, if it is not blank. -/
def close (gathered : List Char) : List Paragraph :=
  if allBlank gathered then [] else [.regular (wordsOf gathered)]

/-- Gathers text lines into paragraphs; blank lines and headers close the paragraph before them. -/
def gather (gathered : List Char) : List Line → List Paragraph
  | [] => close gathered
  | .blank :: rest => close gathered ++ gather [] rest
  | .header level words :: rest => close gathered ++ .header level words :: gather [] rest
  | .text content :: rest => gather (extend gathered content) rest

/-- The paragraphs of a page text. -/
def read (text : String) : List Paragraph :=
  gather [] ((logicalLines text.toList).map Line.ofChars)

end Handbook.Markup
