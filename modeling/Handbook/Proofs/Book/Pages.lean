import Mathlib.Data.Finset.Card
import Handbook.Proofs.Book.Moves

namespace Handbook.Book

/-- The paths of the pages that a book keeps, the open one and those on the shelf. -/
def cachedPaths (book : Book) : Finset String := insert book.active.path book.shelf.paths.toFinset

/-- The open page is not on the shelf, and every page of the shelf is under its own path. -/
structure WellShelved (book : Book) : Prop where
  apart : book.active.path ∉ book.shelf.paths
  keyed : ∀ entry ∈ book.shelf.entries, entry.2.path = entry.1

theorem page?_of_ne {book : Book} {path : String} (different : book.active.path ≠ path) :
    book.page? path = book.shelf.find? path := if_neg different

theorem page?_active (book : Book) : book.page? book.active.path = some book.active := if_pos rfl

theorem mem_cachedPaths {book : Book} {path : String} :
    path ∈ book.cachedPaths ↔ (book.page? path).isSome := by
  rw [cachedPaths, Finset.mem_insert, List.mem_toFinset, ← Shelf.find?_isSome_iff]
  by_cases same : book.active.path = path
  · simp [page?, same]
  · simp [page?, same, Ne.symm same]

theorem WellShelved.card_cachedPaths {book : Book} (wellShelved : book.WellShelved) :
    book.cachedPaths.card = book.pageCount := by
  have notOnShelf : book.active.path ∉ book.shelf.paths.toFinset := by
    simpa using wellShelved.apart
  rw [cachedPaths, Finset.card_insert_of_notMem notOnShelf,
    List.toFinset_card_of_nodup book.shelf.nodup_paths, Shelf.length_paths, pageCount]

theorem WellShelved.path_of_page? {book : Book} (wellShelved : book.WellShelved) {path : String}
    {page : Page} (found : book.page? path = some page) : page.path = path := by
  by_cases same : book.active.path = path
  · rw [page?, if_pos same] at found
    rw [← Option.some.inj found, same]
  · rw [page?_of_ne same] at found
    exact wellShelved.keyed _ (Shelf.mem_of_find? found)

theorem WellShelved.withFont {book : Book} (wellShelved : book.WellShelved) (font : Font) :
    WellShelved { book with font := font } := ⟨wellShelved.apart, wellShelved.keyed⟩

/-- The page of a path, loaded if it is not kept. -/
def pageOrLoad (book : Book) (path : String) : Page :=
  (book.page? path).getD (load book.source path)

theorem WellShelved.path_pageOrLoad {book : Book} (wellShelved : book.WellShelved)
    (path : String) : (book.pageOrLoad path).path = path := by
  unfold pageOrLoad
  cases found : book.page? path with
  | none => exact Page.path_fresh path _
  | some page => exact wellShelved.path_of_page? found

theorem turnTo_of_ne {book : Book} {path : String} (different : book.active.path ≠ path) :
    book.turnTo path = { book with
      active := book.pageOrLoad path
      shelf := (book.shelf.without path).put book.active.path book.active } := by
  rw [turnTo, if_neg different, pageOrLoad, page?_of_ne different]

theorem WellShelved.path_turnTo {book : Book} (wellShelved : book.WellShelved) (path : String) :
    (book.turnTo path).active.path = path := by
  by_cases same : book.active.path = path
  · rw [turnTo, if_pos same, same]
  · rw [turnTo_of_ne same]
    exact wellShelved.path_pageOrLoad path

theorem WellShelved.turnTo {book : Book} (wellShelved : book.WellShelved) (path : String) :
    (book.turnTo path).WellShelved := by
  by_cases same : book.active.path = path
  · rwa [Book.turnTo, if_pos same]
  · rw [turnTo_of_ne same]
    constructor
    · rw [wellShelved.path_pageOrLoad path, Shelf.mem_paths_put, Shelf.mem_paths_without]
      rintro (isActive | ⟨other, -⟩)
      · exact same isActive.symm
      · exact other rfl
    · intro entry member
      rcases Shelf.mem_put.mp member with rfl | ⟨kept, -⟩
      · rfl
      · exact wellShelved.keyed entry (Shelf.mem_without.mp kept).1

theorem WellShelved.page?_turnTo {book : Book} (wellShelved : book.WellShelved)
    (path other : String) :
    (book.turnTo path).page? other =
      if other = path then some (book.pageOrLoad path) else book.page? other := by
  by_cases same : book.active.path = path
  · rw [Book.turnTo, if_pos same]
    split
    · next isPath => rw [isPath, ← same, pageOrLoad, page?_active, Option.getD_some]
    · rfl
  · rw [turnTo_of_ne same, page?, wellShelved.path_pageOrLoad path, Shelf.find?_put,
      Shelf.find?_without, page?]
    by_cases isPath : other = path
    · rw [if_pos isPath.symm, if_pos isPath]
    · rw [if_neg (Ne.symm isPath), if_neg isPath, if_neg isPath]
      by_cases isActive : other = book.active.path
      · rw [if_pos isActive, if_pos isActive.symm]
      · rw [if_neg isActive, if_neg (Ne.symm isActive)]

theorem shelfWith_of_kept {book : Book} {path : String} {page : Page}
    (found : book.page? path = some page) : book.shelfWith path = book.shelf := by
  rw [shelfWith, found, Option.isSome_some, if_pos rfl]

private theorem shelfWith_of_none {book : Book} {path : String} (absent : book.page? path = none) :
    book.shelfWith path = book.shelf.put path (load book.source path) := by
  rw [shelfWith, absent, Option.isSome_none, if_neg Bool.false_ne_true]

private theorem ne_of_page?_eq_none {book : Book} {path : String}
    (absent : book.page? path = none) :
    book.active.path ≠ path := by
  rintro rfl
  rw [page?_active] at absent
  cases absent

theorem WellShelved.shelfWith {book : Book} (wellShelved : book.WellShelved) (path : String) :
    WellShelved { book with shelf := book.shelfWith path } := by
  cases found : book.page? path with
  | some page => rwa [shelfWith_of_kept found]
  | none =>
    rw [shelfWith_of_none found]
    constructor
    · rw [Shelf.mem_paths_put]
      rintro (isPath | onShelf)
      · exact ne_of_page?_eq_none found isPath
      · exact wellShelved.apart onShelf
    · intro entry member
      rcases Shelf.mem_put.mp member with rfl | ⟨kept, -⟩
      · exact Page.path_fresh path _
      · exact wellShelved.keyed entry kept

private theorem page?_shelfWith (book : Book) (path other : String) :
    page? { book with shelf := book.shelfWith path } other =
      if other = path then some (book.pageOrLoad path) else book.page? other := by
  cases found : book.page? path with
  | some page =>
    rw [shelfWith_of_kept found, pageOrLoad, found, Option.getD_some]
    split
    · next isPath => rw [isPath, found]
    · rfl
  | none =>
    rw [shelfWith_of_none found, pageOrLoad, found, Option.getD_none, page?, Shelf.find?_put]
    have different := ne_of_page?_eq_none found
    by_cases isPath : other = path
    · rw [if_pos isPath, if_pos isPath, if_neg (isPath ▸ different)]
    · rw [if_neg isPath, if_neg isPath, page?]

theorem WellShelved.withActive {book : Book} (wellShelved : book.WellShelved) {page : Page}
    (samePath : page.path = book.active.path) : WellShelved { book with active := page } :=
  ⟨samePath ▸ wellShelved.apart, wellShelved.keyed⟩

private theorem page?_withActive {book : Book} {page : Page}
    (samePath : page.path = book.active.path)
    (other : String) :
    page? { book with active := page } other =
      if other = book.active.path then some page else book.page? other := by
  rw [page?, page?, samePath]
  by_cases isActive : other = book.active.path
  · rw [if_pos isActive.symm, if_pos isActive]
  · rw [if_neg (Ne.symm isActive), if_neg isActive, if_neg (Ne.symm isActive)]

namespace Move

/-- The path whose page a move needs. -/
def needs? : Move → Option String
  | .goTo path | .mark path => some path
  | _ => none

def opens? : Move → Option String
  | .goTo path => some path
  | _ => none

/-- What a move does to the open page. -/
def touch : Move → Page → Page
  | .scroll progress, page => page.setProgress progress
  | .dye backwards, page => page.cycleDye backwards
  | _, page => page

end Move

theorem WellShelved.change {book : Book} (wellShelved : book.WellShelved) (move : Move) :
    (move.change book).WellShelved := by
  cases move with
  | stay => exact wellShelved
  | refresh => exact wellShelved
  | resize screenWidth screenHeight => exact wellShelved
  | goTo path => exact wellShelved.turnTo path
  | scroll progress => exact wellShelved.withActive rfl
  | mark path =>
    have shelved := wellShelved.shelfWith path
    exact ⟨shelved.apart, shelved.keyed⟩
  | unmark path => exact ⟨wellShelved.apart, wellShelved.keyed⟩
  | dye backwards => exact wellShelved.withActive rfl

/-- A move keeps every page as it is, but for the page that it needs, which is loaded if it was not
kept, and for the open page, which it may scroll or dye. -/
theorem WellShelved.page?_change {book : Book} (wellShelved : book.WellShelved) (move : Move)
    (other : String) :
    (move.change book).page? other =
      if move.needs? = some other then some (book.pageOrLoad other)
      else if other = book.active.path then some (move.touch book.active)
      else book.page? other := by
  have kept : (if other = book.active.path then some book.active else book.page? other) =
      book.page? other := by
    split
    · next isActive => rw [isActive, page?_active]
    · rfl
  have needed (path : String) :
      (if other = path then some (book.pageOrLoad path) else book.page? other) =
        if some path = some other then some (book.pageOrLoad other)
        else if other = book.active.path then some book.active else book.page? other := by
    rw [kept]
    by_cases isPath : other = path
    · rw [if_pos isPath, if_pos (isPath ▸ rfl), isPath]
    · rw [if_neg isPath, if_neg fun same => isPath (Option.some.inj same).symm]
  cases move with
  | stay => exact kept.symm
  | refresh => exact kept.symm
  | resize screenWidth screenHeight => exact kept.symm
  | goTo path => exact (wellShelved.page?_turnTo path other).trans (needed path)
  | scroll progress => exact @page?_withActive book (book.active.setProgress progress) rfl other
  | mark path => exact (page?_shelfWith book path other).trans (needed path)
  | unmark path => exact kept.symm
  | dye backwards => exact @page?_withActive book (book.active.cycleDye backwards) rfl other

theorem WellShelved.path_change {book : Book} (wellShelved : book.WellShelved) (move : Move) :
    (move.change book).active.path = move.opens?.getD book.active.path := by
  cases move with
  | goTo path => exact wellShelved.path_turnTo path
  | _ => rfl

theorem pages_change_subset (move : Move) (book : Book) :
    ∀ page ∈ (move.change book).bookmarks.pages,
      page ∈ book.bookmarks.pages ∨ move.needs? = some page := by
  intro page member
  cases move with
  | goTo path =>
    change page ∈ (book.turnTo path).bookmarks.pages at member
    rw [bookmarks_turnTo] at member
    exact .inl member
  | mark path =>
    change page ∈ (book.bookmarks.append path).pages at member
    rw [Bookmarks.pages_append] at member
    rcases List.mem_append.mp member with earlier | isNew
    · exact .inl earlier
    · exact .inr (congrArg some (List.mem_singleton.mp isNew).symm)
  | unmark path => exact .inl (book.bookmarks.pages_erase_subset path member)
  | _ => exact .inl member

/-- Each page that the book keeps, the open one and those on the shelf, has a property. -/
structure Every (book : Book) (holds : Page → Prop) : Prop where
  active : holds book.active
  shelved : ∀ entry ∈ book.shelf.entries, holds entry.2

section Every

variable {book next : Book} {holds : Page → Prop} (every : book.Every holds)
  (fresh : ∀ path document, holds (Page.fresh path document))

include every fresh

theorem Every.turnTo (path : String) : (book.turnTo path).Every holds := by
  unfold Book.turnTo
  split
  · exact every
  · constructor
    · cases found : book.shelf.find? path with
      | none => exact fresh path _
      | some page => exact every.shelved _ (Shelf.mem_of_find? found)
    · intro entry member
      rcases Shelf.mem_put.mp member with rfl | ⟨kept, -⟩
      · exact every.active
      · exact every.shelved entry (Shelf.mem_without.mp kept).1

theorem Every.shelfWith (path : String) :
    Every { book with shelf := book.shelfWith path } holds := by
  refine ⟨every.active, ?_⟩
  show ∀ entry ∈ (book.shelfWith path).entries, holds entry.2
  unfold Book.shelfWith
  intro entry member
  split at member
  · exact every.shelved entry member
  · rcases Shelf.mem_put.mp member with rfl | ⟨kept, -⟩
    · exact fresh path _
    · exact every.shelved entry kept

theorem Every.change {move : Move} (touch : ∀ page, holds page → holds (move.touch page)) :
    (move.change book).Every holds := by
  cases move with
  | goTo path => exact every.turnTo fresh path
  | mark path => exact ⟨every.active, (every.shelfWith fresh path).shelved⟩
  | stay => exact every
  | refresh => exact every
  | resize screenWidth screenHeight => exact every
  | scroll progress => exact ⟨touch _ every.active, every.shelved⟩
  | unmark path => exact ⟨every.active, every.shelved⟩
  | dye backwards => exact ⟨touch _ every.active, every.shelved⟩

/-- What a new page has, and what neither a touch nor refreshing takes from a page, is had by every
page after a move. -/
theorem Every.make? {move : Move} (touch : ∀ page, holds page → holds (move.touch page))
    (refresh : ∀ page refreshed visible, holds page →
      page.refresh? book.font visible = some refreshed → holds refreshed)
    (made : move.make? book = some next) : next.Every holds := by
  have changed := every.change fresh touch
  constructor
  · rcases Move.active_of_make? made with same | ⟨visible, refreshed⟩
    · rw [same]
      exact changed.active
    · exact refresh _ _ _ changed.active refreshed
  · rw [(Move.agrees_change made).shelf]
    exact changed.shelved

end Every

theorem Agrees.path {book other : Book} (agrees : book.Agrees other) :
    other.active.path = book.active.path := Page.path_eq_of_unflowed agrees.active

theorem Agrees.wellShelved {book other : Book} (agrees : book.Agrees other)
    (wellShelved : book.WellShelved) : other.WellShelved := by
  constructor
  · rw [agrees.path, agrees.shelf]
    exact wellShelved.apart
  · rw [agrees.shelf]
    exact wellShelved.keyed

theorem Agrees.page? {book other : Book} (agrees : book.Agrees other) (path : String) :
    (other.page? path).map Page.unflowed = (book.page? path).map Page.unflowed := by
  rw [Book.page?, Book.page?, agrees.path, agrees.shelf]
  split
  · exact congrArg some agrees.active
  · rfl

end Handbook.Book
