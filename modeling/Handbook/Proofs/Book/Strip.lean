import Mathlib.Data.List.Nodup
import Handbook.Proofs.Answers
import Handbook.Proofs.Book.Runs

/-!
The strip of tabs seen as a list of distinct pages. Pages and places stand in two lists, and adding
and removing a tab changes both; what is kept throughout is that the lists are equally long, that no
page has two tabs and that the strip is not overfull. The book does nothing to its strip but what can
be asked of any strip.
-/

namespace Handbook

namespace Bookmarks

/-- Every page has a place, no page has two tabs, and the strip is not overfull. -/
structure Sound (strip : Bookmarks) : Prop where
  inStep : strip.pages.length = strip.places.length
  distinct : strip.pages.Nodup
  capped : strip.size ≤ strip.capacity.toNat

variable {strip next shorter longer moved : Bookmarks} {page : String} {index : Nat} {tab : Tab}

theorem get?_eq_some_iff :
    strip.get? index = some tab ↔
      strip.pages[index]? = some tab.page ∧ strip.places[index]? = some tab.x := by
  unfold get? tabs
  rw [List.getElem?_zipWith_eq_some]
  constructor
  · rintro ⟨page, x, isPage, isPlace, rfl⟩
    exact ⟨isPage, isPlace⟩
  · rintro ⟨isPage, isPlace⟩
    exact ⟨tab.page, tab.x, isPage, isPlace, rfl⟩

/-- Where the lists are equally long, there is a tab at every index of a page. -/
theorem Sound.exists_get?_iff (sound : strip.Sound) :
    (∃ tab, strip.get? index = some tab ∧ tab.page = page) ↔
      strip.pages[index]? = some page := by
  constructor
  · rintro ⟨tab, found, rfl⟩
    exact (get?_eq_some_iff.mp found).1
  · intro isPage
    obtain ⟨short, -⟩ := List.getElem?_eq_some_iff.mp isPage
    rw [sound.inStep] at short
    exact ⟨⟨page, strip.places[index]⟩,
      get?_eq_some_iff.mpr ⟨isPage, List.getElem?_eq_getElem short⟩, rfl⟩

theorem Sound.get?_isSome_iff (sound : strip.Sound) :
    (strip.get? index).isSome ↔ index < strip.size := by
  rw [get?, isSome_getElem?, tabs, List.length_zipWith, ← sound.inStep, Nat.min_self, size]

/-- As no page has two tabs, the first tab for a page is the one for it. -/
theorem Sound.position?_eq_some_iff (sound : strip.Sound) :
    strip.position? page = some index ↔ strip.pages[index]? = some page := by
  unfold position?
  rw [List.findIdx?_eq_some_iff_getElem, List.getElem?_eq_some_iff]
  constructor
  · rintro ⟨short, isPage, -⟩
    exact ⟨short, beq_iff_eq.mp isPage⟩
  · rintro ⟨short, isPage⟩
    refine ⟨short, beq_iff_eq.mpr isPage, ?_⟩
    intro earlier before alsoPage
    have same := sound.distinct.getElem_inj_iff.mp ((beq_iff_eq.mp alsoPage).trans isPage.symm)
    exact Nat.ne_of_lt before same

theorem contains_iff : strip.contains page = true ↔ page ∈ strip.pages := by
  rw [contains, position?, List.findIdx?_isSome, List.any_beq']
  exact List.contains_iff_mem

/-- Every tab stands at the place that a rule gives it. -/
def Placed (strip : Bookmarks) (placeOf : Nat → Option Px) : Prop :=
  ∀ index tab, strip.get? index = some tab → placeOf index = some tab.x

theorem placed_of_layout? {placeOf : Nat → Option Px}
    (laid : strip.layout? placeOf = some moved) : moved.Placed placeOf := by
  intro index tab found
  obtain ⟨places, formed, rfl⟩ := eq_of_layout? laid
  obtain ⟨-, isPlace⟩ := get?_eq_some_iff.mp found
  obtain ⟨place, inRange, placed⟩ :=
    exists_getElem?_of_answers (forall₂_of_mapM_eq_some formed) isPlace
  obtain ⟨short, isIndex⟩ := List.getElem?_eq_some_iff.mp inRange
  rw [List.getElem_range] at isIndex
  rw [isIndex]
  exact placed

/-- The pages and a rule for the places leave nothing about a strip open. -/
theorem Sound.eq_of_placed (sound : strip.Sound) (alsoSound : next.Sound)
    {placeOf : Nat → Option Px} (placed : strip.Placed placeOf) (alsoPlaced : next.Placed placeOf)
    (pages : next.pages = strip.pages) (capacity : next.capacity = strip.capacity) :
    next = strip := by
  have asMany : next.places.length = strip.places.length := by
    rw [← alsoSound.inStep, ← sound.inStep, pages]
  have places : next.places = strip.places := by
    apply List.ext_getElem asMany
    intro index short alsoShort
    have within : index < strip.pages.length := sound.inStep ▸ alsoShort
    obtain ⟨page, isPage⟩ : ∃ page, strip.pages[index]? = some page :=
      ⟨_, List.getElem?_eq_getElem within⟩
    have alsoPage := isPage
    rw [← pages] at alsoPage
    have one := placed index ⟨_, _⟩
      (get?_eq_some_iff.mpr ⟨isPage, List.getElem?_eq_getElem alsoShort⟩)
    have other := alsoPlaced index ⟨_, _⟩
      (get?_eq_some_iff.mpr ⟨alsoPage, List.getElem?_eq_getElem short⟩)
    exact Option.some.inj (other.symm.trans one)
  cases strip
  cases next
  cases pages
  cases places
  cases capacity
  rfl

/-- A tab is added for a page that has none while there is room, and never otherwise. -/
theorem add?_eq (strip : Bookmarks) (page : String) :
    strip.add? page =
      if page ∉ strip.pages ∧ strip.size < strip.capacity.toNat then some (strip.append page)
      else none := by
  have refused : (strip.contains page || strip.isFull) = true ↔
      ¬(page ∉ strip.pages ∧ strip.size < strip.capacity.toNat) := by
    rw [Bool.or_eq_true, contains_iff, isFull, decide_eq_true_iff, not_and_or, not_not, Nat.not_lt]
  unfold add?
  by_cases free : page ∉ strip.pages ∧ strip.size < strip.capacity.toNat
  · rw [if_pos free, if_neg fun taken => refused.mp taken free]
  · rw [if_neg free, if_pos (refused.mpr free)]

theorem Sound.remove?_eq_some_iff (sound : strip.Sound) :
    strip.remove? page = some (index, shorter) ↔
      strip.pages[index]? = some page ∧ shorter = strip.eraseAt index := by
  rw [← sound.position?_eq_some_iff]
  constructor
  · intro removed
    obtain ⟨place, found, result⟩ := Option.bind_eq_some_iff.mp removed
    obtain ⟨rfl, rfl⟩ := Prod.mk.inj (Option.some.inj result)
    exact ⟨found, rfl⟩
  · rintro ⟨found, rfl⟩
    rw [remove?, found]
    rfl

theorem Sound.tabs_append (sound : strip.Sound) (page : String) :
    (strip.append page).tabs = strip.tabs ++ [⟨page, 0⟩] :=
  List.zipWith_append sound.inStep

private theorem tabs_eraseAt (strip : Bookmarks) (index : Nat) :
    (strip.eraseAt index).tabs = strip.tabs.eraseIdx index := by
  obtain ⟨pages, places, capacity⟩ := strip
  unfold tabs eraseAt
  dsimp only
  induction pages generalizing places index with
  | nil => simp
  | cons page pages ih =>
    cases places with
    | nil => simp
    | cons place places =>
      cases index with
      | zero => rfl
      | succ index =>
        simp only [List.eraseIdx_cons_succ, List.zipWith_cons_cons]
        rw [ih index places]

theorem Sound.append (sound : strip.Sound) (absent : page ∉ strip.pages)
    (room : strip.size < strip.capacity.toNat) : (strip.append page).Sound where
  inStep := by
    unfold Bookmarks.append
    simp only [List.length_append, List.length_singleton, sound.inStep]
  distinct := by
    rw [pages_append, ← List.concat_eq_append, List.nodup_concat]
    exact ⟨absent, sound.distinct⟩
  capped := by
    rw [size, pages_append, List.length_append, List.length_singleton]
    exact room

theorem Sound.eraseAt (sound : strip.Sound) (index : Nat) : (strip.eraseAt index).Sound where
  inStep := by
    unfold Bookmarks.eraseAt
    simp only [List.length_eraseIdx, sound.inStep]
  distinct := sound.distinct.eraseIdx index
  capped := Nat.le_trans (List.length_eraseIdx_le strip.pages index) sound.capped

theorem Sound.layout? (sound : strip.Sound) {placeOf : Nat → Option Px}
    (laid : strip.layout? placeOf = some moved) : moved.Sound := by
  obtain ⟨places, formed, rfl⟩ := eq_of_layout? laid
  have asMany := (forall₂_of_mapM_eq_some formed).length_eq
  rw [List.length_range] at asMany
  exact ⟨sound.inStep.trans asMany, sound.distinct, sound.capped⟩

inductive Request where
  | add (page : String)
  | remove (page : String)
  | layout (placeOf : Nat → Option Px)

/-- The strip after a request. What is refused changes nothing. -/
def serve? (strip : Bookmarks) : Request → Option Bookmarks
  | .add page => some ((strip.add? page).getD strip)
  | .remove page => some (((strip.remove? page).map Prod.snd).getD strip)
  | .layout placeOf => strip.layout? placeOf

/-- What a request makes of a list of pages that holds at most `capacity` of them. -/
def Request.onPages (capacity : Nat) (pages : List String) : Request → List String
  | .add page => if page ∉ pages ∧ pages.length < capacity then pages ++ [page] else pages
  | .remove page => pages.erase page
  | .layout _ => pages

private theorem capacity_serve? {request : Request} (served : strip.serve? request = some next) :
    next.capacity = strip.capacity := by
  cases request with
  | add page =>
    rw [serve?, add?_eq] at served
    split at served <;> cases served <;> rfl
  | remove page =>
    rw [serve?, remove?] at served
    cases found : strip.position? page <;> rw [found] at served <;> cases served <;> rfl
  | layout placeOf =>
    obtain ⟨places, -, rfl⟩ := eq_of_layout? served
    rfl

theorem Sound.serve? (sound : strip.Sound) {request : Request}
    (served : strip.serve? request = some next) : next.Sound := by
  cases request with
  | add page =>
    rw [Bookmarks.serve?, add?_eq] at served
    split at served
    · next free =>
      cases served
      exact sound.append free.1 free.2
    · cases served
      exact sound
  | remove page =>
    rw [Bookmarks.serve?, remove?] at served
    cases found : strip.position? page with
    | none =>
      rw [found] at served
      cases served
      exact sound
    | some index =>
      rw [found] at served
      cases served
      exact sound.eraseAt index
  | layout placeOf => exact sound.layout? served

theorem Sound.pages_serve? (sound : strip.Sound) {request : Request}
    (served : strip.serve? request = some next) :
    next.pages = request.onPages strip.capacity.toNat strip.pages := by
  cases request with
  | add page =>
    rw [Bookmarks.serve?, add?_eq] at served
    unfold Request.onPages
    split at served
    · next free =>
      cases served
      exact (if_pos free).symm
    · next taken =>
      cases served
      exact (if_neg taken).symm
  | remove page =>
    rw [Bookmarks.serve?, remove?] at served
    unfold Request.onPages
    cases found : strip.position? page with
    | none =>
      rw [found] at served
      cases served
      have absent : page ∉ strip.pages := by
        rw [← contains_iff, contains, found]
        exact Bool.false_ne_true
      exact (List.erase_of_not_mem absent).symm
    | some index =>
      rw [found] at served
      cases served
      obtain ⟨short, isPage⟩ := List.getElem?_eq_some_iff.mp (sound.position?_eq_some_iff.mp found)
      subst isPage
      exact (List.Nodup.erase_getElem sound.distinct index short).symm
  | layout placeOf =>
    obtain ⟨places, -, rfl⟩ := eq_of_layout? served
    rfl

private theorem sound_empty (capacity : UInt64) : Sound { capacity := capacity } :=
  ⟨rfl, List.nodup_nil, Nat.zero_le _⟩

/-- What any requests leave of a strip: it stays sound, keeps its capacity and follows the list of
its pages. -/
theorem Sound.serveAll (sound : strip.Sound) {requests : List Request}
    (served : requests.foldlM Bookmarks.serve? strip = some next) :
    next.Sound ∧ next.capacity = strip.capacity ∧
      next.pages = requests.foldl (Request.onPages strip.capacity.toNat) strip.pages := by
  induction requests generalizing strip with
  | nil =>
    cases served
    exact ⟨sound, rfl, rfl⟩
  | cons request later ih =>
    rw [List.foldlM_cons] at served
    obtain ⟨middle, first, rest⟩ := Option.bind_eq_some_iff.mp served
    obtain ⟨last, capacity, pages⟩ := ih (sound.serve? first) rest
    rw [capacity_serve? first, sound.pages_serve? first] at pages
    exact ⟨last, capacity.trans (capacity_serve? first), pages⟩

/-- Whatever was asked of a strip, its two lists are in step and it is the list of distinct pages
that the same requests make, never longer than its capacity. A tab is added at the end exactly for a
page that has none while there is room; a tab is removed exactly where it is, and every other tab
keeps its place; what is refused changes nothing. -/
theorem serves_as_capped_list {capacity : UInt64} {requests : List Request} {strip : Bookmarks}
    (served : requests.foldlM serve? { capacity := capacity } = some strip) :
    strip.pages.length = strip.places.length ∧ strip.pages.Nodup ∧
      strip.size ≤ capacity.toNat ∧
      strip.pages = requests.foldl (Request.onPages capacity.toNat) [] ∧
      (∀ page index, strip.position? page = some index ↔
        ∃ tab, strip.get? index = some tab ∧ tab.page = page) ∧
      (∀ index, (strip.get? index).isSome ↔ index < strip.size) ∧
      (∀ page, (strip.add? page).isSome ↔
        page ∉ strip.pages ∧ strip.size < capacity.toNat) ∧
      (∀ page longer, strip.add? page = some longer →
        strip.serve? (.add page) = some longer ∧ longer.tabs = strip.tabs ++ [⟨page, 0⟩]) ∧
      (∀ page, strip.add? page = none → strip.serve? (.add page) = some strip) ∧
      (∀ page index, (∃ shorter, strip.remove? page = some (index, shorter)) ↔
        ∃ tab, strip.get? index = some tab ∧ tab.page = page) ∧
      (∀ page index shorter, strip.remove? page = some (index, shorter) →
        strip.serve? (.remove page) = some shorter ∧
          shorter.tabs = strip.tabs.eraseIdx index) ∧
      (∀ page, strip.remove? page = none → strip.serve? (.remove page) = some strip) ∧
      ∀ placeOf moved, strip.serve? (.layout placeOf) = some moved →
        moved.pages = strip.pages ∧
          ∀ index tab, moved.get? index = some tab → placeOf index = some tab.x := by
  obtain ⟨sound, sameCapacity, pages⟩ := (sound_empty capacity).serveAll served
  dsimp only at sameCapacity pages
  have capped := sound.capped
  rw [sameCapacity] at capped
  refine ⟨sound.inStep, sound.distinct, capped, pages, ?_, ?_, ?_, ?_, ?_, ?_, ?_, ?_, ?_⟩
  · intro page index
    rw [sound.position?_eq_some_iff, sound.exists_get?_iff]
  · intro index
    exact sound.get?_isSome_iff
  · intro page
    rw [add?_eq, sameCapacity, Option.isSome_ite]
  · intro page longer added
    rw [serve?, added, eq_append_of_add? added]
    exact ⟨rfl, sound.tabs_append page⟩
  · intro page refused
    rw [serve?, refused]
    rfl
  · intro page index
    rw [sound.exists_get?_iff]
    constructor
    · rintro ⟨shorter, removed⟩
      exact (sound.remove?_eq_some_iff.mp removed).1
    · intro isPage
      exact ⟨_, sound.remove?_eq_some_iff.mpr ⟨isPage, rfl⟩⟩
  · intro page index shorter removed
    rw [serve?, removed, (sound.remove?_eq_some_iff.mp removed).2]
    exact ⟨rfl, strip.tabs_eraseAt index⟩
  · intro page refused
    rw [serve?, refused]
    rfl
  · intro placeOf moved laid
    obtain ⟨places, -, isMoved⟩ := eq_of_layout? laid
    refine ⟨?_, placed_of_layout? laid⟩
    rw [isMoved]

/-- Requests to a strip for two tabs: a page asked for twice, a removal that leaves the other tab where
it was, and a page for which there is no room. -/
def busyStrip : List Request :=
  [.add "/a.md", .add "/b.md", .add "/a.md", .layout fun index => Px.fit? (100 - 10 * index),
    .remove "/a.md", .add "/c.md", .add "/d.md"]

theorem serves_as_capped_list_busyStrip :
    ∃ strip, busyStrip.foldlM serve? { capacity := 2 } = some strip ∧
      strip.tabs = [⟨"/b.md", 90⟩, ⟨"/c.md", 0⟩] ∧
      strip.position? "/c.md" = some 1 ∧ strip.add? "/d.md" = none ∧
      ∃ shorter, strip.remove? "/b.md" = some (0, shorter) ∧ shorter.tabs = [⟨"/c.md", 0⟩] := by
  have served : busyStrip.foldlM serve? { capacity := 2 } =
      some ⟨["/b.md", "/c.md"], [90, 0], 2⟩ := by
    decide
  obtain ⟨-, -, -, -, position, -, addable, -, -, removable, removed, -⟩ :=
    serves_as_capped_list served
  refine ⟨_, served, rfl, (position _ _).mpr ⟨⟨"/c.md", 0⟩, rfl, rfl⟩, ?_, ?_⟩
  · rw [← Option.not_isSome_iff_eq_none, addable]
    decide
  · obtain ⟨shorter, isShorter⟩ := (removable "/b.md" 0).mpr ⟨⟨"/b.md", 90⟩, rfl, rfl⟩
    exact ⟨shorter, isShorter, (removed _ _ _ isShorter).2⟩

end Bookmarks

namespace Book

variable {settings : Settings} {source : String → Option Document} {font : Font}
  {start book next : Book} {steps : List Step}

theorem bookmarks_refresh? (refreshed : book.refresh? = some next) :
    next.bookmarks = book.bookmarks := by
  obtain ⟨page, -, result⟩ := Option.bind_eq_some_iff.mp refreshed
  rw [← Option.some.inj result]

theorem Move.exists_requests {move : Move} (made : move.make? book = some next) :
    ∃ requests : List Bookmarks.Request,
      requests.foldlM Bookmarks.serve? book.bookmarks = some next.bookmarks := by
  cases move with
  | stay =>
    cases made
    exact ⟨[], rfl⟩
  | refresh =>
    rw [bookmarks_refresh? made]
    exact ⟨[], rfl⟩
  | goTo path =>
    rw [Move.make?, setPage?_eq] at made
    rw [bookmarks_refresh? made, bookmarks_turnTo]
    exact ⟨[], rfl⟩
  | scroll progress =>
    rw [bookmarks_refresh? made]
    exact ⟨[], rfl⟩
  | resize screenWidth screenHeight =>
    obtain ⟨viewport, -, made⟩ := Option.bind_eq_some_iff.mp made
    obtain ⟨placed, isPlaced, refreshed⟩ := Option.bind_eq_some_iff.mp made
    obtain ⟨bookmarks, laid, rfl⟩ := exists_of_placeTabs? isPlaced
    rw [bookmarks_refresh? refreshed]
    exact ⟨[.layout viewport.tabPlace?], by simp [Bookmarks.serve?, laid]⟩
  | mark path =>
    obtain ⟨longer, added, placed⟩ := Option.bind_eq_some_iff.mp made
    obtain ⟨bookmarks, laid, rfl⟩ := exists_of_placeTabs? placed
    exact ⟨[.add path, .layout book.viewport.tabPlace?], by simp [Bookmarks.serve?, added, laid]⟩
  | unmark path =>
    obtain ⟨⟨index, shorter⟩, removed, placed⟩ := Option.bind_eq_some_iff.mp made
    obtain ⟨bookmarks, laid, rfl⟩ := exists_of_placeTabs? placed
    exact ⟨[.remove path, .layout book.viewport.tabPlace?],
      by simp [Bookmarks.serve?, removed, laid]⟩
  | dye backwards =>
    cases made
    exact ⟨[], rfl⟩

theorem Run.sound {screenWidth screenHeight : Px}
    (opened : openAt settings source font screenWidth screenHeight = .ok start)
    (run : Run start steps book) : book.bookmarks.Sound := by
  induction run with
  | nil =>
    obtain ⟨-, artwork, viewport, active, -, -, -, isStart⟩ := exists_of_openAt opened
    rw [isStart]
    exact Bookmarks.sound_empty settings.maxTabs
  | @concat steps step run taken ih =>
    obtain ⟨move, -, made⟩ := taken.exists_move
    obtain ⟨requests, served⟩ := Move.exists_requests made
    exact (ih.serveAll served).1

end Book

end Handbook
