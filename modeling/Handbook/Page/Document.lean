import Handbook.Markup.Reading

namespace Handbook

/-- The text of a page and the title that its keeper gives it. -/
structure Document where
  title : Option String
  markup : String
deriving DecidableEq

namespace Document

/-- The title that a paragraph offers: the words of a header of the first level, if it has any. -/
def titleOf? : Paragraph → Option String
  | .header 1 words =>
    let title := (Paragraph.header 1 words).plainText
    if title = "" then none else some title
  | _ => none

/-- A document titled by its first header of the first level that has words. -/
def ofMarkup (markup : String) : Document where
  title := (Markup.read markup).findSome? titleOf?
  markup := markup

end Document

end Handbook
