import Handbook.Book.Basic

namespace Handbook

namespace Page

/-- The page without what flowing it into a column leaves behind. -/
def unflowed (page : Page) : Page := { page with scroll := 0, flow := {}, flowedWidth := none }

@[simp]
theorem path_unflowed (page : Page) : page.unflowed.path = page.path := rfl

@[simp]
theorem unflowed_fresh (path : String) (document : Option Document) :
    (fresh path document).unflowed = fresh path document := by
  cases document <;> rfl

@[simp]
theorem path_fresh (path : String) (document : Option Document) :
    (fresh path document).path = path := by
  cases document <;> rfl

theorem progress_fresh (path : String) (document : Option Document) :
    (fresh path document).progress = 0 := by
  cases document <;> rfl

theorem dye_fresh (path : String) (document : Option Document) :
    (fresh path document).dye = .white := by
  cases document <;> rfl

theorem unflowed_reflow? {page next : Page} {font : Font} {width : Px}
    (flowed : page.reflow? font width = some next) : next.unflowed = page.unflowed := by
  unfold reflow? at flowed
  split at flowed
  · rw [Option.some.inj flowed]
  · obtain ⟨flow, -, result⟩ := Option.bind_eq_some_iff.mp flowed
    rw [← Option.some.inj result]
    rfl

theorem unflowed_refresh? {page next : Page} {font : Font} {visible : Rect}
    (refreshed : page.refresh? font visible = some next) : next.unflowed = page.unflowed := by
  obtain ⟨flowed, reflowed, updated⟩ := Option.bind_eq_some_iff.mp refreshed
  obtain ⟨range, -, result⟩ := Option.bind_eq_some_iff.mp updated
  rw [← unflowed_reflow? reflowed, ← Option.some.inj result]
  rfl

theorem path_eq_of_unflowed {page other : Page} (same : page.unflowed = other.unflowed) :
    page.path = other.path := by
  rw [← path_unflowed, same, path_unflowed]

end Page

namespace Bookmarks

/-- The strip without the tab for a page, if there is one. -/
def erase (bookmarks : Bookmarks) (page : String) : Bookmarks :=
  bookmarks.eraseAt ((bookmarks.position? page).getD bookmarks.size)

@[simp]
theorem pages_append (bookmarks : Bookmarks) (page : String) :
    (bookmarks.append page).pages = bookmarks.pages ++ [page] := rfl

theorem pages_erase_subset (bookmarks : Bookmarks) (page : String) :
    (bookmarks.erase page).pages ⊆ bookmarks.pages :=
  (List.eraseIdx_sublist bookmarks.pages _).subset

theorem eq_append_of_add? {bookmarks longer : Bookmarks} {page : String}
    (added : bookmarks.add? page = some longer) : longer = bookmarks.append page := by
  unfold add? at added
  split at added
  · cases added
  · exact (Option.some.inj added).symm

theorem eq_erase_of_remove? {bookmarks shorter : Bookmarks} {page : String} {index : Nat}
    (removed : bookmarks.remove? page = some (index, shorter)) :
    shorter = bookmarks.erase page := by
  obtain ⟨place, found, result⟩ := Option.bind_eq_some_iff.mp removed
  rw [← (Prod.mk.inj (Option.some.inj result)).2, erase, found, Option.getD_some]

theorem eq_of_layout? {bookmarks moved : Bookmarks} {placeOf : Nat → Option Px}
    (placed : bookmarks.layout? placeOf = some moved) :
    ∃ places, (List.range bookmarks.places.length).mapM placeOf = some places ∧
      moved = { bookmarks with places := places } := by
  obtain ⟨places, formed, result⟩ := Option.bind_eq_some_iff.mp placed
  exact ⟨places, formed, (Option.some.inj result).symm⟩

theorem page_mem_pages {bookmarks : Bookmarks} {tab : Tab} (member : tab ∈ bookmarks.tabs) :
    tab.page ∈ bookmarks.pages := by
  obtain ⟨index, found⟩ := List.mem_iff_getElem?.mp member
  obtain ⟨page, x, isPage, -, rfl⟩ := List.getElem?_zipWith_eq_some.mp found
  exact List.mem_of_getElem? isPage

end Bookmarks

namespace Book

/-- Both books hold the same. They may differ in what is derived: how the open page is flowed and
where everything lies on the screen. -/
structure Agrees (book other : Book) : Prop where
  settings : other.settings = book.settings
  artwork : other.artwork = book.artwork
  source : other.source = book.source
  font : other.font = book.font
  shelf : other.shelf = book.shelf
  active : other.active.unflowed = book.active.unflowed
  pages : other.bookmarks.pages = book.bookmarks.pages
  capacity : other.bookmarks.capacity = book.bookmarks.capacity

theorem Agrees.refl (book : Book) : book.Agrees book := ⟨rfl, rfl, rfl, rfl, rfl, rfl, rfl, rfl⟩

theorem Agrees.trans {book other third : Book} (first : book.Agrees other)
    (second : other.Agrees third) : book.Agrees third where
  settings := second.settings.trans first.settings
  artwork := second.artwork.trans first.artwork
  source := second.source.trans first.source
  font := second.font.trans first.font
  shelf := second.shelf.trans first.shelf
  active := second.active.trans first.active
  pages := second.pages.trans first.pages
  capacity := second.capacity.trans first.capacity

theorem active_of_refresh? {book next : Book} (refreshed : book.refresh? = some next) :
    book.active.refresh? book.font book.viewport.visible = some next.active := by
  obtain ⟨active, found, result⟩ := Option.bind_eq_some_iff.mp refreshed
  rw [← Option.some.inj result]
  exact found

theorem agrees_refresh? {book next : Book} (refreshed : book.refresh? = some next) :
    book.Agrees next := by
  obtain ⟨active, found, result⟩ := Option.bind_eq_some_iff.mp refreshed
  rw [← Option.some.inj result]
  exact { Agrees.refl book with active := Page.unflowed_refresh? found }

theorem exists_of_placeTabs? {book next : Book} (placed : book.placeTabs? = some next) :
    ∃ bookmarks, book.bookmarks.layout? book.viewport.tabPlace? = some bookmarks ∧
      next = { book with bookmarks := bookmarks } := by
  obtain ⟨bookmarks, laid, result⟩ := Option.bind_eq_some_iff.mp placed
  exact ⟨bookmarks, laid, (Option.some.inj result).symm⟩

theorem agrees_placeTabs? {book next : Book} (placed : book.placeTabs? = some next) :
    book.Agrees next := by
  obtain ⟨bookmarks, found, rfl⟩ := exists_of_placeTabs? placed
  obtain ⟨places, -, rfl⟩ := Bookmarks.eq_of_layout? found
  exact { Agrees.refl book with }

theorem agrees_resize? {book next : Book} {screenWidth screenHeight : Px}
    (resized : book.resize? screenWidth screenHeight = some next) : book.Agrees next := by
  obtain ⟨viewport, -, rest⟩ := Option.bind_eq_some_iff.mp resized
  obtain ⟨placed, found, refreshed⟩ := Option.bind_eq_some_iff.mp rest
  have elsewhere : book.Agrees { book with viewport := viewport } :=
    { Agrees.refl book with }
  exact (elsewhere.trans (agrees_placeTabs? found)).trans (agrees_refresh? refreshed)

section Opening

variable {settings : Settings} {source : String → Option Document} {font : Font}
  {screenWidth screenHeight : Px} {start : Book}

/-- What opening a book comes down to once its settings and its sheet are accepted. -/
theorem exists_of_openAt
    (answer : openAt settings source font screenWidth screenHeight = .ok start) :
    settings.check = .ok () ∧ ∃ artwork viewport active,
      Artwork.of settings.sheet = .ok artwork ∧
      Viewport.compute? screenWidth screenHeight settings = some viewport ∧
      (load source settings.mainMenu).refresh? font viewport.visible = some active ∧
      start = {
        settings, artwork, source, font, viewport, active
        shelf := {}
        bookmarks := { capacity := settings.maxTabs } } := by
  obtain ⟨_, checked, answer⟩ := Fault.bind_eq_ok_iff.mp answer
  obtain ⟨artwork, suited, answer⟩ := Fault.bind_eq_ok_iff.mp answer
  obtain ⟨viewport, computed, answer⟩ := Fault.bind_eq_ok_iff.mp answer
  obtain ⟨active, refreshed, answer⟩ := Fault.bind_eq_ok_iff.mp answer
  rw [Fault.ofOption_eq_ok_iff] at computed refreshed
  exact ⟨checked, artwork, viewport, active, suited, computed, refreshed,
    (Except.ok.inj answer).symm⟩

theorem font_of_openAt
    (answer : openAt settings source font screenWidth screenHeight = .ok start) :
    start.font = font := by
  obtain ⟨-, artwork, viewport, active, -, -, -, isStart⟩ := exists_of_openAt answer
  rw [isStart]

structure Opened (settings : Settings) (source : String → Option Document) (start : Book) : Prop where
  hasSettings : start.settings = settings
  hasSource : start.source = source
  artwork : Artwork.of settings.sheet = .ok start.artwork
  emptyShelf : start.shelf = {}
  atMain : start.active.unflowed = load source settings.mainMenu
  noTabs : start.bookmarks.pages = []
  capacity : start.bookmarks.capacity = settings.maxTabs

theorem opened_of_openAt
    (answer : openAt settings source font screenWidth screenHeight = .ok start) :
    start.Opened settings source := by
  obtain ⟨-, artwork, viewport, active, suited, -, refreshed, isStart⟩ := exists_of_openAt answer
  have same := Page.unflowed_refresh? refreshed
  rw [isStart]
  exact ⟨rfl, rfl, suited, rfl, same.trans (Page.unflowed_fresh _ _), rfl, rfl⟩

end Opening

end Book

end Handbook
