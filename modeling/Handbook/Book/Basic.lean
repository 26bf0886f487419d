import Handbook.Book.Bookmarks
import Handbook.Book.Input
import Handbook.Book.Shelf
import Handbook.Book.Slider
import Handbook.Book.Viewport
import Handbook.Sheet.Artwork

/-!
The book: the open page, the pages visited before, the bookmarks and where everything lies on the
screen. An operation answers `none` when a pixel number leaves its range.
-/

namespace Handbook

structure Book where
  settings : Settings
  artwork : Artwork
  /-- Where pages come from. -/
  source : String → Option Document
  font : Font
  /-- The pages that can be opened again as they were left. -/
  shelf : Shelf
  /-- The open page. -/
  active : Page
  bookmarks : Bookmarks
  viewport : Viewport

/-- The page flowed into the visible column, its scroll set from its progress. -/
def Page.refresh? (page : Page) (font : Font) (visible : Rect) : Option Page := do
  (← page.reflow? font visible.width).updateScroll? visible.height

namespace Book

/-- The page of a path as it is on a first visit. -/
def load (source : String → Option Document) (path : String) : Page :=
  Page.fresh path (source path)

def openAt (settings : Settings) (source : String → Option Document) (font : Font)
    (screenWidth screenHeight : Px) : Except Fault Book := do
  settings.check
  let artwork ← Artwork.of settings.sheet
  let viewport ← Fault.ofOption (Viewport.compute? screenWidth screenHeight settings)
  let active ← Fault.ofOption
    ((load source settings.mainMenu).refresh? font viewport.visible)
  return {
    settings, artwork, source, font, viewport, active
    shelf := {}
    bookmarks := { capacity := settings.maxTabs } }

/-- The visited page of a path. -/
def page? (book : Book) (path : String) : Option Page :=
  if book.active.path = path then some book.active else book.shelf.find? path

def pageCount (book : Book) : Nat := book.shelf.size + 1

/-- The book with its open page flowed and scrolled for the view. -/
def refresh? (book : Book) : Option Book := do
  return { book with active := ← book.active.refresh? book.font book.viewport.visible }

/-- Opens the page of a path, which is loaded on its first visit. -/
def setPage? (book : Book) (path : String) : Option Book :=
  if book.active.path = path then book.refresh?
  else
    let next := (book.shelf.find? path).getD (load book.source path)
    let shelf := (book.shelf.without path).put book.active.path book.active
    refresh? { book with active := next, shelf := shelf }

def setProgress? (book : Book) (progress : Binary32) : Option Book :=
  refresh? { book with active := book.active.setProgress progress }

/-- The book with every tab at its place on the strip. -/
def placeTabs? (book : Book) : Option Book := do
  return { book with bookmarks := ← book.bookmarks.layout? book.viewport.tabPlace? }

def resize? (book : Book) (screenWidth screenHeight : Px) : Option Book := do
  let viewport ← Viewport.compute? screenWidth screenHeight book.settings
  let placed ← placeTabs? { book with viewport := viewport }
  placed.refresh?

/-- Bookmarks a path, whose page is loaded if it was not visited. Tells whether a tab was added. -/
def addBookmark? (book : Book) (path : String) : Option (Book × Bool) :=
  match book.bookmarks.add? path with
  | none => some (book, false)
  | some bookmarks => do
    let shelf :=
      if (book.page? path).isSome then book.shelf
      else book.shelf.put path (load book.source path)
    return (← placeTabs? { book with bookmarks := bookmarks, shelf := shelf }, true)

/-- Removes the bookmark of a path. Tells whether there was one. -/
def removeBookmark? (book : Book) (path : String) : Option (Book × Bool) :=
  match book.bookmarks.remove? path with
  | none => some (book, false)
  | some (_, bookmarks) => do
    return (← placeTabs? { book with bookmarks := bookmarks }, true)

/-- The rectangle of a tab; the tab of the open page stands taller. -/
def tabRectOf? (book : Book) (tab : Tab) : Option Rect :=
  book.viewport.tabRect? tab.x (decide (book.active.path = tab.page))

def tabRect? (book : Book) (index : Nat) : Option (Option Rect) :=
  match book.bookmarks.get? index with
  | none => some none
  | some tab => do return some (← book.tabRectOf? tab)

/-- The home button shows on every page but the main one. -/
def homeVisible (book : Book) : Bool := book.active.path != book.settings.mainMenu

/-- The add button shows beside the home button while the strip has room. -/
def addVisible (book : Book) : Bool := book.homeVisible && !book.bookmarks.isFull

/-- The add button works on pages without a bookmark. -/
def addEnabled (book : Book) : Bool := !book.bookmarks.contains book.active.path

/-- The slider works on pages higher than the view. -/
def sliderEnabled (book : Book) : Bool :=
  decide (book.viewport.visible.height.val < book.active.height.val)

/-- A click on the tab at an index. The left button opens the page of another tab. The right button
on the tab of the open page changes its dye, backwards under shift, and removes the tab under shift
and control. Tells whether the click did anything. -/
def clickTab? (book : Book) (index : Nat) (button : MouseButton) (keys : HeldKeys) :
    Option (Book × Bool) :=
  match book.bookmarks.get? index with
  | none => some (book, false)
  | some tab =>
    if book.active.path = tab.page then
      if button = .right then
        if keys.control && keys.shift then book.removeBookmark? tab.page
        else some ({ book with active := book.active.cycleDye keys.shift }, true)
      else some (book, false)
    else if button = .left then do return (← book.setPage? tab.page, true)
    else some (book, false)

/-- The index of the first of some tabs under a point, counting from `index`. -/
def tabUnder? (book : Book) (x y : Px) (index : Nat) : List Tab → Option (Option Nat)
  | [] => some none
  | tab :: rest => do
    let rect ← book.tabRectOf? tab
    if ← rect.contains? x y then return some index
    else book.tabUnder? x y (index + 1) rest

/-- Whether the home button shows under a point. -/
def homeUnder? (book : Book) (x y : Px) : Option Bool :=
  if book.homeVisible then book.viewport.homeButton.contains? x y else some false

/-- Whether the add button shows and works under a point. -/
def addUnder? (book : Book) (x y : Px) : Option Bool :=
  if book.addVisible && book.addEnabled then do
    (← book.viewport.addButton? book.bookmarks.size).contains? x y
  else some false

def sliderUnder? (book : Book) (x y : Px) : Option Bool :=
  if book.sliderEnabled then book.viewport.rail.contains? x y else some false

/-- The part of the book under a point. Tabs come first, then the home button, the add button and
the slider; parts that do not work are passed over. -/
def hit? (book : Book) (x y : Px) : Option (Option Widget) := do
  match ← book.tabUnder? x y 0 book.bookmarks.tabs with
  | some index => return some (.tab index)
  | none =>
    if ← book.homeUnder? x y then return some .home
    else if ← book.addUnder? x y then return some .addBookmark
    else if ← book.sliderUnder? x y then return some .slider
    else return none

/-- Moves the thumb of the slider to the cursor. Tells whether the slider works. -/
def drag? (book : Book) (y : Px) : Option (Book × Bool) :=
  if book.sliderEnabled then do
    let progress ← Slider.progress? book.viewport.rail book.settings.sliderHeight y
    return (← book.setProgress? progress, true)
  else some (book, false)

/-- A click anywhere. Tells whether a part of the book answered. -/
def click? (book : Book) (x y : Px) (button : MouseButton) (keys : HeldKeys) :
    Option (Book × Bool) := do
  match ← book.hit? x y with
  | none => return (book, false)
  | some (.tab index) => book.clickTab? index button keys
  | some widget =>
    if button = .left then
      match widget with
      | .home => return (← book.setPage? book.settings.mainMenu, true)
      | .addBookmark => book.addBookmark? book.active.path
      | .slider => book.drag? y
      | .tab _ => return (book, false)
    else return (book, false)

end Book

end Handbook
