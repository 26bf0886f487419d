namespace Handbook

/-- A block of page text. -/
inductive Paragraph where
  | header (level : Nat) (words : List String)
  | regular (words : List String)
deriving DecidableEq, Inhabited

namespace Paragraph

def words : Paragraph → List String
  | .header _ words => words
  | .regular words => words

def level? : Paragraph → Option Nat
  | .header level _ => some level
  | .regular _ => none

/-- The words with one space between neighbours. -/
def plainText (paragraph : Paragraph) : String := " ".intercalate paragraph.words

end Paragraph

end Handbook
