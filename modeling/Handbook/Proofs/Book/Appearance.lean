import Handbook.Proofs.Book.Cache
import Handbook.Proofs.Book.Derived

namespace Handbook

theorem Page.Current.eq_of_same {first second : Page} {font : Font} {visible : Rect}
    (current : first.Current font visible) (alsoCurrent : second.Current font visible)
    (path : second.path = first.path) (title : second.title = first.title)
    (paragraphs : second.paragraphs = first.paragraphs)
    (progress : second.progress = first.progress) :
    second = { first with dye := second.dye } := by
  have flow : second.flow = first.flow := by
    have formed := alsoCurrent.flow
    rw [paragraphs, current.flow] at formed
    exact (Option.some.inj formed).symm
  have flowedWidth := alsoCurrent.flowedWidth.trans current.flowedWidth.symm
  obtain ⟨range, formed, result⟩ := Option.bind_eq_some_iff.mp current.scroll
  obtain ⟨sameRange, alsoFormed, alsoResult⟩ := Option.bind_eq_some_iff.mp alsoCurrent.scroll
  have isRange : sameRange = range := by
    rw [scrollRange?, height, flow] at alsoFormed
    exact Option.some.inj (alsoFormed.symm.trans formed)
  have scroll : second.scroll = first.scroll := by
    rw [← congrArg Page.scroll (Option.some.inj result),
      ← congrArg Page.scroll (Option.some.inj alsoResult), isRange, progress]
  cases first
  cases second
  simp_all

namespace Book

/-- The book with another shelf and another dye of the open page. -/
def disguise (book : Book) (shelf : Shelf) (dye : Dye) : Book :=
  { book with shelf := shelf, active := { book.active with dye := dye } }

variable {settings : Settings} {source : String → Option Document} {font : Font} {screen : Px × Px}
  {start book other : Book} {steps : List Step} {shelf : Shelf} {dye : Dye}

private theorem tabUnder?_disguise (x y : Px) (index : Nat) (tabs : List Tab) :
    (book.disguise shelf dye).tabUnder? x y index tabs = book.tabUnder? x y index tabs := by
  induction tabs generalizing index with
  | nil => rfl
  | cons tab rest ih =>
    rw [tabUnder?, tabUnder?, ih]
    rfl

private theorem hit?_disguise (x y : Px) :
    (book.disguise shelf dye).hit? x y = book.hit? x y := by
  rw [hit?, tabUnder?_disguise]
  rfl

/-- The pages behind the tabs show alike in both books. -/
def SameTabs (book other : Book) : Prop :=
  ∀ tab ∈ book.bookmarks.tabs,
    (other.page? tab.page).map Page.title = (book.page? tab.page).map Page.title ∧
      (other.page? tab.page).map Page.dye = (book.page? tab.page).map Page.dye

private theorem tabs?_disguise (hovered : Option Widget) (index : Nat) (tabs : List Tab)
    (sameDyes : ∀ tab ∈ tabs, ((book.disguise shelf dye).page? tab.page).map Page.dye =
      (book.page? tab.page).map Page.dye) :
    (book.disguise shelf dye).tabs? hovered index tabs = book.tabs? hovered index tabs := by
  induction tabs generalizing index with
  | nil => rfl
  | cons tab rest ih =>
    have sameDye := sameDyes tab (List.mem_cons_self ..)
    have later := ih (index + 1) fun other member => sameDyes other (List.mem_cons_of_mem _ member)
    rw [tabs?, tabs?, sameDye, later]
    rfl

private theorem hoverParts?_disguise (sameTabs : book.SameTabs (book.disguise shelf dye)) (x y : Px)
    (hovered : Option Widget) :
    (book.disguise shelf dye).hoverParts? x y hovered = book.hoverParts? x y hovered := by
  unfold hoverParts?
  split
  · next index =>
    have sameTab : (book.disguise shelf dye).bookmarks.get? index =
        book.bookmarks.get? index := rfl
    rw [sameTab]
    cases found : book.bookmarks.get? index with
    | none => rfl
    | some tab =>
      have sameTitle := (sameTabs tab (List.mem_of_getElem? found)).1
      dsimp only
      rw [tabTooltip?, tabTooltip?, sameTitle]
      rfl
  · rfl

/-- A disguise that leaves the pages behind the tabs alone does not show. -/
theorem scene?_disguise (sameTabs : book.SameTabs (book.disguise shelf dye)) (x y : Px) :
    (book.disguise shelf dye).scene? x y = book.scene? x y := by
  have tabs (hovered : Option Widget) :
      (book.disguise shelf dye).tabs? hovered 0
          (book.disguise shelf dye).bookmarks.tabs =
        book.tabs? hovered 0 book.bookmarks.tabs :=
    tabs?_disguise hovered 0 _ fun tab member => (sameTabs tab member).2
  have hover := hoverParts?_disguise sameTabs x y
  unfold scene?
  rw [hit?_disguise]
  simp only [tabs, hover]
  rfl

/-- The frame that rendering hands to the host. The part of a tick that has passed does not enter
it. -/
def frame? (book : Book) (x y : Px) (_partialTick : Binary32) : Option DrawList := do
  let (frame, _) ← book.render? x y
  return frame

private theorem frame?_eq (refreshed : book.refresh? = some book) (x y : Px)
    (partialTick : Binary32) :
    book.frame? x y partialTick =
      (book.scene? x y).bind (DrawList.ofScene? Artwork.texture book.artwork.size) := by
  simp only [frame?, render?, refreshed, Option.bind_eq_bind, Option.bind_some, Option.bind_assoc,
    Option.pure_def, Option.bind_fun_some]

/-- What is known of a book after any run under one font. -/
structure WellKept (settings : Settings) (source : String → Option Document) (font : Font)
    (screen : Px × Px) (book : Book) : Prop extends UpToDate settings font screen book where
  keeps : book.Keeps settings source
  artwork : Artwork.of settings.sheet = .ok book.artwork
  capacity : book.bookmarks.capacity = settings.maxTabs
  sound : book.bookmarks.Sound

theorem Run.wellKept {screenWidth screenHeight : Px}
    (opened : openAt settings source font screenWidth screenHeight = .ok start)
    (run : Run start steps book) (sameFont : ∀ step ∈ steps, step.font = font) :
    book.WellKept settings source font (lastScreen (screenWidth, screenHeight) steps) := by
  have atStart := opened_of_openAt opened
  have upToDate := run.upToDate (upToDate_of_openAt opened) sameFont
  refine { upToDate with
    keeps := run.keeps atStart.keeps, artwork := ?_, capacity := ?_, sound := run.sound opened }
  · rw [run.fixed.artwork]
    exact atStart.artwork
  · rw [run.fixed.capacity]
    exact atStart.capacity

theorem Keeps.title_of_marked (keeps : book.Keeps settings source) {path : String}
    (marked : path ∈ book.bookmarks.pages) :
    (book.page? path).map Page.title = some (load source path).title := by
  obtain ⟨page, found⟩ := Option.isSome_iff_exists.mp (keeps.marked path marked)
  rw [found, Option.map_some, (keeps.faithful path page found).1]

theorem WellKept.sameTabs (kept : book.WellKept settings source font screen)
    (otherKept : other.WellKept settings source font screen)
    (samePages : other.bookmarks.pages = book.bookmarks.pages)
    (sameDyes : ∀ path ∈ book.bookmarks.pages,
      (other.page? path).map Page.dye = (book.page? path).map Page.dye) :
    book.SameTabs other := by
  intro tab member
  have marked : tab.page ∈ book.bookmarks.pages := Bookmarks.page_mem_pages member
  refine ⟨?_, sameDyes tab.page marked⟩
  rw [kept.keeps.title_of_marked marked]
  rw [← samePages] at marked
  exact otherKept.keeps.title_of_marked marked

/-- The screen, the open page with its scroll and the order of the tabs leave only the shelf and the
dye of the open page to the history of a book. -/
theorem WellKept.eq_disguise (kept : book.WellKept settings source font screen)
    (otherKept : other.WellKept settings source font screen)
    (samePath : other.active.path = book.active.path)
    (samePages : other.bookmarks.pages = book.bookmarks.pages)
    (sameProgress : other.active.progress = book.active.progress) :
    other = book.disguise other.shelf other.active.dye := by
  have viewport : other.viewport = book.viewport :=
    Option.some.inj (otherKept.viewport.symm.trans kept.viewport)
  have artwork : other.artwork = book.artwork :=
    Except.ok.inj (otherKept.artwork.symm.trans kept.artwork)
  have bookmarks : other.bookmarks = book.bookmarks := by
    have placed := otherKept.placed
    rw [viewport] at placed
    exact kept.sound.eq_of_placed otherKept.sound kept.placed placed samePages
      (otherKept.capacity.trans kept.capacity.symm)
  have active : other.active = { book.active with dye := other.active.dye } := by
    have current := otherKept.current
    rw [viewport] at current
    obtain ⟨title, paragraphs⟩ := kept.keeps.faithful _ _ (page?_active book)
    obtain ⟨otherTitle, otherParagraphs⟩ := otherKept.keeps.faithful _ _ (page?_active other)
    rw [samePath] at otherTitle otherParagraphs
    exact kept.current.eq_of_same current samePath (otherTitle.trans title.symm)
      (otherParagraphs.trans paragraphs.symm) sameProgress
  have settings := otherKept.hasSettings.trans kept.hasSettings.symm
  have font := otherKept.hasFont.trans kept.hasFont.symm
  have source := otherKept.keeps.hasSource.trans kept.keeps.hasSource.symm
  unfold disguise
  rw [← active]
  cases other
  cases settings
  cases artwork
  cases font
  cases source
  cases viewport
  cases bookmarks
  rfl

/-- However two books came about: with the same screen, open page, scroll and tabs, and the same
dyes on the tabs, they show the same frame. -/
theorem Run.same_frame {settings : Settings} {source : String → Option Document} {font : Font}
    {screenWidth screenHeight otherWidth otherHeight : Px}
    {start otherStart book other : Book} {steps otherSteps : List Step}
    (opened : openAt settings source font screenWidth screenHeight = .ok start)
    (otherOpened : openAt settings source font otherWidth otherHeight = .ok otherStart)
    (run : Run start steps book) (otherRun : Run otherStart otherSteps other)
    (sameFont : ∀ step ∈ steps ++ otherSteps, step.font = font)
    (sameScreen : lastScreen (otherWidth, otherHeight) otherSteps =
      lastScreen (screenWidth, screenHeight) steps)
    (samePath : other.active.path = book.active.path)
    (samePages : other.bookmarks.pages = book.bookmarks.pages)
    (sameProgress : other.active.progress = book.active.progress)
    (sameDyes : ∀ path ∈ book.bookmarks.pages,
      (other.page? path).map Page.dye = (book.page? path).map Page.dye)
    (x y : Px) (partialTick otherTick : Binary32) :
    other.frame? x y otherTick = book.frame? x y partialTick := by
  have kept := run.wellKept opened fun step member => sameFont step (List.mem_append_left _ member)
  have otherKept := otherRun.wellKept otherOpened
    fun step member => sameFont step (List.mem_append_right _ member)
  rw [sameScreen] at otherKept
  have sameTabs := kept.sameTabs otherKept samePages sameDyes
  have isDisguise := kept.eq_disguise otherKept samePath samePages sameProgress
  have sameScene : other.scene? x y = book.scene? x y := by
    rw [isDisguise] at sameTabs ⊢
    exact scene?_disguise sameTabs x y
  have sameArtwork : other.artwork = book.artwork := by
    rw [isDisguise]
    rfl
  rw [other.frame?_eq otherKept.refresh?, book.frame?_eq kept.refresh?, sameScene, sameArtwork]

/-- A long way to the page of a mark: another page is marked, scrolled, dyed and forgotten, and the
screen shrinks on the way. -/
def longWay : List Action :=
  [.addBookmark "/b.md", .addBookmark "/a.md", .setPage "/b.md", .setProgress 1,
    .clickTab 0 .right {}, .render 20 20 0, .removeBookmark "/b.md", .resize 640 480,
    .setPage "/a.md"]

def shortWay : List Action :=
  [.addBookmark "/a.md", .setPage "/a.md"]

theorem Run.same_frame_longWay :
    ∃ start otherStart steps otherSteps book other,
      openAt {} (fun path => some ⟨path, "# One\ntwo"⟩) Font.standard 800 600 = .ok start ∧
      openAt {} (fun path => some ⟨path, "# One\ntwo"⟩) Font.standard 640 480 = .ok otherStart ∧
      start.replay? longWay = some (steps, book) ∧
      otherStart.replay? shortWay = some (otherSteps, other) ∧
      book.pageCount = 3 ∧ other.pageCount = 2 ∧
      ∀ x y partialTick otherTick, other.frame? x y otherTick = book.frame? x y partialTick := by
  have seen :
      ((openAt {} (fun path => some ⟨path, "# One\ntwo"⟩) Font.standard 800 600).toOption.bind
        fun start => (start.replay? longWay).map fun ran =>
          ((lastScreen (800, 600) ran.1, ran.2.active.path, ran.2.bookmarks.pages),
            ran.2.active.progress, (ran.2.page? "/a.md").map Page.dye, ran.2.pageCount)) =
        some (((640, 480), "/a.md", ["/a.md"]), 0, some .white, 3) := by
    decide +kernel
  have alsoSeen :
      ((openAt {} (fun path => some ⟨path, "# One\ntwo"⟩) Font.standard 640 480).toOption.bind
        fun start => (start.replay? shortWay).map fun ran =>
          ((lastScreen (640, 480) ran.1, ran.2.active.path, ran.2.bookmarks.pages),
            ran.2.active.progress, (ran.2.page? "/a.md").map Page.dye, ran.2.pageCount)) =
        some (((640, 480), "/a.md", ["/a.md"]), 0, some .white, 2) := by
    decide +kernel
  obtain ⟨start, steps, book, opened, replayed, run, sameFont, result⟩ := exists_run_of_view seen
  obtain ⟨otherStart, otherSteps, other, otherOpened, otherReplayed, otherRun, otherFont,
    otherResult⟩ := exists_run_of_view alsoSeen
  simp only [Prod.mk.injEq] at result otherResult
  obtain ⟨⟨screen, path, pages⟩, progress, dye, count⟩ := result
  obtain ⟨⟨otherScreen, otherPath, otherPages⟩, otherProgress, otherDye, otherCount⟩ := otherResult
  refine ⟨start, otherStart, steps, otherSteps, book, other, opened, otherOpened, replayed,
    otherReplayed, count, otherCount, ?_⟩
  refine Run.same_frame opened otherOpened run otherRun ?_ (otherScreen.trans screen.symm)
    (otherPath.trans path.symm) (otherPages.trans pages.symm) (otherProgress.trans progress.symm) ?_
  · intro step member
    exact (List.mem_append.mp member).elim (sameFont step) (otherFont step)
  · intro marked member
    rw [pages, List.mem_singleton] at member
    rw [member, dye, otherDye]

end Book

end Handbook
