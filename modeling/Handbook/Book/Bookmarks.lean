import Handbook.Px

/-!
Bookmark tabs. A strip keeps the pages of its tabs in one list and where they are drawn in another;
what stands at one index of both belongs together. The strip holds a limited number of tabs.
-/

namespace Handbook

structure Tab where
  page : String
  x : Px := 0
deriving DecidableEq

/-- A strip of tabs and the number of tabs that it holds at most. -/
structure Bookmarks where
  /-- The pages that the tabs open. -/
  pages : List String := []
  /-- Where the tabs are drawn. -/
  places : List Px := []
  capacity : UInt64
deriving DecidableEq

namespace Bookmarks

/-- The tabs, each page with its place. -/
def tabs (bookmarks : Bookmarks) : List Tab := bookmarks.pages.zipWith Tab.mk bookmarks.places

def size (bookmarks : Bookmarks) : Nat := bookmarks.pages.length

def isFull (bookmarks : Bookmarks) : Bool := decide (bookmarks.capacity.toNat ≤ bookmarks.size)

/-- The index of the tab for a page. -/
def position? (bookmarks : Bookmarks) (page : String) : Option Nat :=
  bookmarks.pages.findIdx? fun other => other == page

def contains (bookmarks : Bookmarks) (page : String) : Bool := (bookmarks.position? page).isSome

def get? (bookmarks : Bookmarks) (index : Nat) : Option Tab := bookmarks.tabs[index]?

/-- The strip with one more tab at its end, whatever it holds. -/
def append (bookmarks : Bookmarks) (page : String) : Bookmarks :=
  { bookmarks with pages := bookmarks.pages ++ [page], places := bookmarks.places ++ [0] }

def eraseAt (bookmarks : Bookmarks) (index : Nat) : Bookmarks :=
  { bookmarks with
    pages := bookmarks.pages.eraseIdx index
    places := bookmarks.places.eraseIdx index }

/-- The strip with a tab for a page at its end, or `none` when there is one already or the strip is
full. -/
def add? (bookmarks : Bookmarks) (page : String) : Option Bookmarks :=
  if bookmarks.contains page || bookmarks.isFull then none else some (bookmarks.append page)

/-- The strip without the tab for a page, and the index that the tab had. -/
def remove? (bookmarks : Bookmarks) (page : String) : Option (Nat × Bookmarks) := do
  let index ← bookmarks.position? page
  return (index, bookmarks.eraseAt index)

/-- The strip with every tab at the place that a rule gives its index. -/
def layout? (bookmarks : Bookmarks) (placeOf : Nat → Option Px) : Option Bookmarks := do
  return { bookmarks with places := ← (List.range bookmarks.places.length).mapM placeOf }

end Bookmarks

end Handbook
