import Handbook.Proofs.Book.Decisions
import Handbook.Proofs.Book.Pages
import Handbook.Proofs.Book.Strip

/-!
What a book derives from the rest of its state: where everything lies on the screen, how the open
page is flowed and how many pixels of it are scrolled away. A page is not flowed again into a column
of the width that it remembers, so every kept page has to remember truly; then nothing derived is
ever out of date while the font stays the same.
-/

namespace Handbook

namespace Page

/-- The page's lines are those of its text in a column of the width that it remembers. -/
def Remembers (page : Page) (font : Font) : Prop :=
  ∀ width, page.flowedWidth = some width →
    Flow.ofParagraphs? font width page.paragraphs = some page.flow

/-- The page is flowed into the column of a view, under whatever font, and scrolled for it. -/
structure Settled (page : Page) (visible : Rect) : Prop where
  flowedWidth : page.flowedWidth = some visible.width
  scroll : page.updateScroll? visible.height = some page

/-- The page is flowed and scrolled for a view. -/
structure Current (page : Page) (font : Font) (visible : Rect) : Prop where
  flowedWidth : page.flowedWidth = some visible.width
  flow : Flow.ofParagraphs? font visible.width page.paragraphs = some page.flow
  scroll : page.updateScroll? visible.height = some page

variable {page next : Page} {font : Font} {visible : Rect}

theorem remembers_fresh (path : String) (document : Option Document) (font : Font) :
    (fresh path document).Remembers font := by
  intro width known
  cases document <;> cases known

theorem Current.settled (current : page.Current font visible) : page.Settled visible :=
  ⟨current.flowedWidth, current.scroll⟩

theorem Current.remembers (current : page.Current font visible) : page.Remembers font := by
  intro width known
  rw [← Option.some.inj (current.flowedWidth.symm.trans known)]
  exact current.flow

theorem Settled.refresh? (settled : page.Settled visible) (font : Font) :
    page.refresh? font visible = some page := by
  rw [Page.refresh?, reflow?, if_pos settled.flowedWidth]
  exact settled.scroll

private theorem updateScroll?_idempotent {viewHeight : Px}
    (updated : page.updateScroll? viewHeight = some next) :
    next.updateScroll? viewHeight = some next := by
  obtain ⟨range, formed, result⟩ := Option.bind_eq_some_iff.mp updated
  cases result
  exact Option.bind_eq_some_iff.mpr ⟨range, formed, rfl⟩

/-- A page that is flowed has the width of the column, and the lines of its text in it unless the
lines that it kept were others. -/
theorem flowed_of_reflow? {width : Px} (reflowed : page.reflow? font width = some next) :
    next.flowedWidth = some width ∧ (page.Remembers font →
      Flow.ofParagraphs? font width next.paragraphs = some next.flow) := by
  unfold reflow? at reflowed
  split at reflowed
  · next known =>
    rw [← Option.some.inj reflowed]
    exact ⟨known, fun remembers => remembers width known⟩
  · obtain ⟨flow, formed, result⟩ := Option.bind_eq_some_iff.mp reflowed
    rw [← Option.some.inj result]
    exact ⟨rfl, fun _ => formed⟩

theorem settled_of_refresh? (refreshed : page.refresh? font visible = some next) :
    next.Settled visible := by
  obtain ⟨flowed, reflowed, updated⟩ := Option.bind_eq_some_iff.mp refreshed
  have idempotent := updateScroll?_idempotent updated
  obtain ⟨range, -, result⟩ := Option.bind_eq_some_iff.mp updated
  cases result
  exact ⟨(flowed_of_reflow? reflowed).1, idempotent⟩

/-- Flowing afresh makes a page current, also where an earlier flow is kept. -/
theorem Remembers.current (remembers : page.Remembers font)
    (refreshed : page.refresh? font visible = some next) : next.Current font visible := by
  have settled := settled_of_refresh? refreshed
  obtain ⟨flowed, reflowed, updated⟩ := Option.bind_eq_some_iff.mp refreshed
  obtain ⟨range, -, result⟩ := Option.bind_eq_some_iff.mp updated
  cases result
  exact ⟨settled.flowedWidth, (flowed_of_reflow? reflowed).2 remembers, settled.scroll⟩

theorem Settled.cycleDye (settled : page.Settled visible) (backwards : Bool) :
    (page.cycleDye backwards).Settled visible := by
  obtain ⟨range, formed, result⟩ := Option.bind_eq_some_iff.mp settled.scroll
  refine ⟨settled.flowedWidth, Option.bind_eq_some_iff.mpr ⟨range, formed, ?_⟩⟩
  rw [← Option.some.inj result]
  rfl

theorem Current.cycleDye (current : page.Current font visible) (backwards : Bool) :
    (page.cycleDye backwards).Current font visible := by
  have settled := current.settled.cycleDye backwards
  exact ⟨settled.flowedWidth, current.flow, settled.scroll⟩

end Page

namespace Book

/-- The open page is flowed into the column of the view and scrolled for it. -/
def Settled (book : Book) : Prop := book.active.Settled book.viewport.visible

/-- Everything but the open page is up to date on a screen, and every kept page remembers truly. -/
structure Arranged (settings : Settings) (font : Font) (screen : Px × Px) (book : Book) : Prop where
  hasSettings : book.settings = settings
  hasFont : book.font = font
  viewport : Viewport.compute? screen.1 screen.2 settings = some book.viewport
  placed : book.bookmarks.Placed book.viewport.tabPlace?
  remembers : book.active.Remembers font
  shelved : ∀ entry ∈ book.shelf.entries, entry.2.Remembers font

/-- Nothing that the book derives is out of date. -/
structure UpToDate (settings : Settings) (font : Font) (screen : Px × Px) (book : Book) : Prop
    extends Arranged settings font screen book where
  current : book.active.Current font book.viewport.visible

variable {settings : Settings} {source : String → Option Document} {font : Font} {screen : Px × Px}
  {start book next : Book} {steps : List Step}

theorem settled_of_refresh? (refreshed : book.refresh? = some next) : next.Settled := by
  obtain ⟨page, found, result⟩ := Option.bind_eq_some_iff.mp refreshed
  cases result
  exact Page.settled_of_refresh? found

theorem Settled.refresh? (settled : book.Settled) : book.refresh? = some book := by
  rw [Book.refresh?, Page.Settled.refresh? settled book.font]
  rfl

theorem Arranged.refresh? (arranged : book.Arranged settings font screen)
    (refreshed : book.refresh? = some next) : next.UpToDate settings font screen := by
  obtain ⟨page, found, result⟩ := Option.bind_eq_some_iff.mp refreshed
  rw [arranged.hasFont] at found
  cases result
  have current := arranged.remembers.current found
  exact { arranged with remembers := current.remembers, current }

theorem UpToDate.refresh? (upToDate : book.UpToDate settings font screen) :
    book.refresh? = some book :=
  Settled.refresh? upToDate.current.settled

theorem Arranged.every (arranged : book.Arranged settings font screen) :
    book.Every fun page => page.Remembers font := ⟨arranged.remembers, arranged.shelved⟩

theorem Arranged.turnTo (arranged : book.Arranged settings font screen) (path : String) :
    (book.turnTo path).Arranged settings font screen := by
  have every := arranged.every.turnTo (Page.remembers_fresh · · font) path
  unfold Book.turnTo at every ⊢
  split
  · exact arranged
  · next different =>
    rw [if_neg different] at every
    exact { arranged with remembers := every.active, shelved := every.shelved }

theorem UpToDate.make? (upToDate : book.UpToDate settings font screen) {move : Move}
    (made : move.make? book = some next) :
    next.UpToDate settings font (move.screen?.getD screen) := by
  cases move with
  | stay =>
    rw [← Option.some.inj made]
    exact upToDate
  | refresh => exact upToDate.toArranged.refresh? made
  | goTo path =>
    rw [Move.make?, setPage?_eq] at made
    exact (upToDate.toArranged.turnTo path).refresh? made
  | scroll progress =>
    have arranged : Arranged settings font screen
        { book with active := book.active.setProgress progress } :=
      { upToDate with remembers := upToDate.remembers }
    exact arranged.refresh? made
  | resize screenWidth screenHeight =>
    obtain ⟨viewport, formed, rest⟩ := Option.bind_eq_some_iff.mp made
    obtain ⟨placed, laid, refreshed⟩ := Option.bind_eq_some_iff.mp rest
    obtain ⟨bookmarks, inLayout, rfl⟩ := exists_of_placeTabs? laid
    have inPlace := Bookmarks.placed_of_layout? inLayout
    rw [upToDate.hasSettings] at formed
    have arranged : Arranged settings font (screenWidth, screenHeight)
        { book with viewport := viewport, bookmarks := bookmarks } :=
      { upToDate with viewport := formed, placed := inPlace }
    exact arranged.refresh? refreshed
  | mark path =>
    obtain ⟨longer, -, laid⟩ := Option.bind_eq_some_iff.mp made
    obtain ⟨bookmarks, inLayout, rfl⟩ := exists_of_placeTabs? laid
    have inPlace := Bookmarks.placed_of_layout? inLayout
    have every := upToDate.every.shelfWith (Page.remembers_fresh · · font) path
    exact { upToDate with
      placed := inPlace
      shelved := every.shelved
      current := upToDate.current }
  | unmark path =>
    obtain ⟨⟨index, shorter⟩, -, laid⟩ := Option.bind_eq_some_iff.mp made
    obtain ⟨bookmarks, inLayout, rfl⟩ := exists_of_placeTabs? laid
    have inPlace := Bookmarks.placed_of_layout? inLayout
    exact { upToDate with placed := inPlace, current := upToDate.current }
  | dye backwards =>
    rw [← Option.some.inj made]
    have current := upToDate.current.cycleDye backwards
    exact { upToDate with remembers := current.remembers, current }

/-- The screen that the host gave last, counting the one on which the book was opened. -/
def lastScreen (opening : Px × Px) (steps : List Step) : Px × Px :=
  (steps.filterMap fun step => step.action.screen?).getLastD opening

theorem UpToDate.taken {step : Step} (upToDate : step.before.UpToDate settings font screen)
    (sameFont : step.font = font) (taken : step.Taken) :
    step.after.UpToDate settings font (step.action.screen?.getD screen) := by
  have before : step.book.UpToDate settings font screen :=
    { upToDate with hasFont := sameFont, current := upToDate.current }
  obtain ⟨move, decided, made⟩ := taken.exists_move
  have after := before.make? made
  rwa [(fits_of_moveOf? decided).screen] at after

theorem Run.upToDate (run : Run start steps book) (upToDate : start.UpToDate settings font screen)
    (sameFont : ∀ step ∈ steps, step.font = font) :
    book.UpToDate settings font (lastScreen screen steps) := by
  induction run with
  | nil => exact upToDate
  | @concat steps step run taken ih =>
    have earlier := ih fun other member => sameFont other (List.mem_append_left _ member)
    have last := sameFont step (List.mem_append_right _ (List.mem_singleton_self step))
    rw [lastScreen, getLastD_filterMap_concat]
    exact earlier.taken last taken

theorem upToDate_of_openAt {screenWidth screenHeight : Px}
    (opened : openAt settings source font screenWidth screenHeight = .ok start) :
    start.UpToDate settings font (screenWidth, screenHeight) := by
  obtain ⟨-, artwork, viewport, active, -, computed, refreshed, isStart⟩ := exists_of_openAt opened
  have current := (Page.remembers_fresh _ _ font).current refreshed
  rw [isStart]
  exact {
    hasSettings := rfl
    hasFont := rfl
    viewport := computed
    placed := by
      intro index tab found
      cases found
    remembers := current.remembers
    shelved := by
      intro entry member
      cases member
    current }

/-- While the font stays the same, nothing that a book derives is ever out of date: the viewport is
that of the last screen, every tab is at its place, and the open page is flowed and scrolled as it
would be afresh. So drawing the book changes nothing about it. -/
theorem Run.nothing_stale {settings : Settings} {source : String → Option Document} {font : Font}
    {screenWidth screenHeight : Px} {start book : Book} {steps : List Step}
    (opened : openAt settings source font screenWidth screenHeight = .ok start)
    (run : Run start steps book) (sameFont : ∀ step ∈ steps, step.font = font) :
    Viewport.compute? (lastScreen (screenWidth, screenHeight) steps).1
        (lastScreen (screenWidth, screenHeight) steps).2 settings = some book.viewport ∧
      (∀ index tab, book.bookmarks.get? index = some tab →
        book.viewport.tabPlace? index = some tab.x) ∧
      Flow.ofParagraphs? font book.viewport.visible.width book.active.paragraphs =
        some book.active.flow ∧
      book.active.updateScroll? book.viewport.visible.height = some book.active ∧
      ∀ x y list next, book.render? x y = some (list, next) → next = book := by
  have upToDate := run.upToDate (upToDate_of_openAt opened) sameFont
  refine ⟨upToDate.viewport, upToDate.placed, upToDate.current.flow, upToDate.current.scroll, ?_⟩
  intro x y list next drawn
  obtain ⟨refreshed, -⟩ := exists_of_render? drawn
  exact Option.some.inj (refreshed.symm.trans upToDate.refresh?)

/-- A way through a book that marks two pages, takes a mark away and comes back on a smaller
screen. -/
def detour : List Action :=
  [.addBookmark "/a.md", .addBookmark "/b.md", .setPage "/a.md", .removeBookmark "/a.md",
    .resize 640 480, .setPage "/main_menu.md"]

theorem Run.nothing_stale_detour :
    ∃ start steps book,
      openAt {} (fun path => some ⟨path, "# One\ntwo"⟩) Font.standard 800 600 = .ok start ∧
      start.replay? detour = some (steps, book) ∧
      book.bookmarks.tabs = [⟨"/b.md", 510⟩] ∧ book.viewport.tabPlace? 0 = some 510 ∧
      Viewport.compute? 640 480 {} = some book.viewport ∧
      ∀ x y list next, book.render? x y = some (list, next) → next = book := by
  have seen :
      ((openAt {} (fun path => some ⟨path, "# One\ntwo"⟩) Font.standard 800 600).toOption.bind
        fun start => (start.replay? detour).map fun ran =>
          (lastScreen (800, 600) ran.1, ran.2.bookmarks.tabs)) =
        some ((640, 480), [⟨"/b.md", 510⟩]) := by
    decide +kernel
  obtain ⟨start, steps, book, opened, replayed, run, sameFont, result⟩ := exists_run_of_view seen
  obtain ⟨last, tabs⟩ := Prod.mk.inj result
  obtain ⟨viewport, placed, -, -, unchanged⟩ := Run.nothing_stale opened run sameFont
  rw [last] at viewport
  refine ⟨start, steps, book, opened, replayed, tabs, ?_, viewport, unchanged⟩
  refine placed 0 ⟨"/b.md", 510⟩ ?_
  unfold Bookmarks.get?
  rw [tabs]
  rfl

theorem Settled.make? (settled : book.Settled) {move : Move} (made : move.make? book = some next) :
    next.Settled := by
  cases move with
  | stay =>
    cases made
    exact settled
  | refresh => exact settled_of_refresh? made
  | goTo path =>
    rw [Move.make?, setPage?_eq] at made
    exact settled_of_refresh? made
  | scroll progress => exact settled_of_refresh? made
  | resize screenWidth screenHeight =>
    obtain ⟨viewport, -, made⟩ := Option.bind_eq_some_iff.mp made
    obtain ⟨placed, -, refreshed⟩ := Option.bind_eq_some_iff.mp made
    exact settled_of_refresh? refreshed
  | mark path =>
    obtain ⟨longer, -, laid⟩ := Option.bind_eq_some_iff.mp made
    obtain ⟨bookmarks, -, rfl⟩ := exists_of_placeTabs? laid
    exact settled
  | unmark path =>
    obtain ⟨⟨index, shorter⟩, -, laid⟩ := Option.bind_eq_some_iff.mp made
    obtain ⟨bookmarks, -, rfl⟩ := exists_of_placeTabs? laid
    exact settled
  | dye backwards =>
    cases made
    exact Page.Settled.cycleDye settled backwards

/-- However the host measures texts from one moment to the next, the open page of a book stays flowed
and scrolled, so that drawing it changes nothing about the book. -/
theorem Run.settled {screenWidth screenHeight : Px}
    (opened : openAt settings source font screenWidth screenHeight = .ok start)
    (run : Run start steps book) : book.Settled := by
  induction run with
  | nil => exact (upToDate_of_openAt opened).current.settled
  | @concat steps step run taken ih =>
    obtain ⟨move, -, made⟩ := taken.exists_move
    have before : step.book.Settled := ih
    exact before.make? made

end Book

end Handbook
