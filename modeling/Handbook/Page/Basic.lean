import Handbook.Page.Document
import Handbook.Page.Dye
import Handbook.Text.Flow

namespace Handbook

structure Page where
  path : String
  title : String
  dye : Dye := .white
  /-- How far the page is scrolled, from zero to one. -/
  progress : Binary32 := 0
  /-- How many pixels of the page lie above the view. -/
  scroll : Px := 0
  paragraphs : List Paragraph := []
  /-- The lines of the page in the column of `flowedWidth`. -/
  flow : Flow := {}
  /-- The width of the column that the page was last flowed into. -/
  flowedWidth : Option Px := none
deriving DecidableEq

namespace Page

/-- A page visited for the first time. Without a document it is empty; without a title it bears its
path. -/
def fresh (path : String) (document : Option Document) : Page :=
  match document with
  | none => { path := path, title := path }
  | some document =>
    { path := path
      title := document.title.getD path
      paragraphs := Markup.read document.markup }

/-- The height of the page's text; zero before it is flowed. -/
def height (page : Page) : Px := page.flow.height

/-- The page flowed into a column. Nothing changes while the column keeps its width. -/
def reflow? (page : Page) (font : Font) (width : Px) : Option Page :=
  if page.flowedWidth = some width then some page
  else do
    let flow ← Flow.ofParagraphs? font width page.paragraphs
    return { page with flow := flow, flowedWidth := some width }

/-- The progress that a request sets: moved into the range from zero to one, and zero for what is
not a number. -/
def progressFor (requested : Binary32) : Binary32 :=
  if requested.isNaN then 0 else requested.clampUnit

def setProgress (page : Page) (requested : Binary32) : Page :=
  { page with progress := progressFor requested }

/-- How many pixels the page can scroll in a view of some height. -/
def scrollRange? (page : Page) (viewHeight : Px) : Option Px := do
  return max (← Px.fit? (page.height.val - viewHeight.val)) 0

/-- The scroll that a progress means for a range. -/
def scrollFor (progress : Binary32) (range : Px) : Px :=
  (progress * Binary32.ofInt range.val).round

/-- The page with its scroll set from its progress. -/
def updateScroll? (page : Page) (viewHeight : Px) : Option Page := do
  return { page with scroll := scrollFor page.progress (← page.scrollRange? viewHeight) }

/-- The page with the next dye, or the one before it. -/
def cycleDye (page : Page) (backwards : Bool) : Page :=
  { page with dye := page.dye.cycle backwards }

end Page

end Handbook
