import Handbook.Proofs.Book.Pages
import Handbook.Proofs.Book.Runs

namespace Handbook.Book

variable {settings : Settings} {source : String → Option Document} {start book other : Book}
  {steps : List Step}

/-- The book keeps its pages well: each under its own path with the text that its path has at the
source, and one for every tab. -/
structure Keeps (settings : Settings) (source : String → Option Document) (book : Book) : Prop where
  hasSettings : book.settings = settings
  hasSource : book.source = source
  wellShelved : book.WellShelved
  faithful : ∀ path page, book.page? path = some page →
    page.title = (load source path).title ∧ page.paragraphs = (load source path).paragraphs
  marked : ∀ page ∈ book.bookmarks.pages, (book.page? page).isSome

theorem Keeps.agrees (keeps : book.Keeps settings source) (agrees : book.Agrees other) :
    other.Keeps settings source where
  hasSettings := agrees.settings.trans keeps.hasSettings
  hasSource := agrees.source.trans keeps.hasSource
  wellShelved := agrees.wellShelved keeps.wellShelved
  faithful path page found := by
    have same := agrees.page? path
    rw [found, Option.map_some] at same
    obtain ⟨former, kept, unflowed⟩ := Option.map_eq_some_iff.mp same.symm
    obtain ⟨title, paragraphs⟩ := keeps.faithful path former kept
    have sameTitle : page.title = former.title := (congrArg Page.title unflowed).symm
    have sameText : page.paragraphs = former.paragraphs := (congrArg Page.paragraphs unflowed).symm
    exact ⟨sameTitle.trans title, sameText.trans paragraphs⟩
  marked page member := by
    rw [agrees.pages] at member
    rw [← Option.isSome_map, agrees.page? page, Option.isSome_map]
    exact keeps.marked page member

theorem Keeps.withFont (keeps : book.Keeps settings source) (font : Font) :
    Keeps settings source { book with font := font } :=
  ⟨keeps.hasSettings, keeps.hasSource, keeps.wellShelved.withFont font, keeps.faithful,
    keeps.marked⟩

theorem Keeps.change (keeps : book.Keeps settings source) (move : Move) :
    (move.change book).Keeps settings source where
  hasSettings := (move.settings_change book).trans keeps.hasSettings
  hasSource := (move.source_change book).trans keeps.hasSource
  wellShelved := keeps.wellShelved.change move
  faithful path page found := by
    rw [keeps.wellShelved.page?_change move path] at found
    split at found
    · rw [← Option.some.inj found, pageOrLoad]
      cases kept : book.page? path with
      | none => exact keeps.hasSource ▸ ⟨rfl, rfl⟩
      | some former => exact keeps.faithful path former kept
    · split at found
      · next isActive =>
        have text := keeps.faithful _ _ (page?_active book)
        rw [← Option.some.inj found, isActive]
        cases move <;> exact text
      · exact keeps.faithful path page found
  marked page member := by
    rw [keeps.wellShelved.page?_change move page]
    split
    · rfl
    · next notNeeded =>
      split
      · rfl
      · exact keeps.marked page ((pages_change_subset move book page member).resolve_right notNeeded)

theorem Opened.path_active (opened : start.Opened settings source) :
    start.active.path = settings.mainMenu := by
  rw [← Page.path_unflowed, opened.atMain]
  exact Page.path_fresh settings.mainMenu _

theorem Opened.keeps (opened : start.Opened settings source) : start.Keeps settings source where
  hasSettings := opened.hasSettings
  hasSource := opened.hasSource
  wellShelved := by
    constructor
    · rw [opened.emptyShelf]
      exact List.not_mem_nil
    · rw [opened.emptyShelf]
      intro entry member
      cases member
  faithful path page found := by
    by_cases isMain : start.active.path = path
    · rw [page?, if_pos isMain] at found
      have title := congrArg Page.title opened.atMain
      have paragraphs := congrArg Page.paragraphs opened.atMain
      rw [← opened.path_active, isMain] at title paragraphs
      rw [← Option.some.inj found]
      exact ⟨title, paragraphs⟩
    · rw [page?_of_ne isMain, opened.emptyShelf] at found
      cases found
  marked page member := by
    rw [opened.noTabs] at member
    cases member

private theorem mem_cachedPaths_of_make? {book next : Book} (wellShelved : book.WellShelved)
    {move : Move}
    (made : move.make? book = some next) (path : String) :
    path ∈ next.cachedPaths ↔ path ∈ book.cachedPaths ∨ move.needs? = some path := by
  have agrees := Move.agrees_change made
  rw [mem_cachedPaths, mem_cachedPaths, ← Option.isSome_map, agrees.page? path, Option.isSome_map,
    wellShelved.page?_change move path]
  by_cases needed : move.needs? = some path
  · simp [needed]
  · rw [if_neg needed]
    split
    · next isActive => simp [isActive, page?_active]
    · simp [needed]

/-- The step bookmarks the path: it is asked to, or the add button is clicked while the path is
open, and the answer is yes. -/
def Step.Adds (step : Step) (path : String) : Prop :=
  step.answer = true ∧
    (step.action = .addBookmark path ∨
      ∃ x y keys, step.action = .click x y .left keys ∧
        step.book.hit? x y = some (some .addBookmark) ∧ step.book.active.path = path)

theorem markMove_cases (book : Book) (path : String) :
    book.markMove path = (.mark path, true) ∨ book.markMove path = (.stay, false) := by
  unfold markMove
  split
  · exact .inl rfl
  · exact .inr rfl

private theorem eq_of_markMove {asked path : String} {answer : Bool}
    (decided : book.markMove asked = (.mark path, answer)) : asked = path ∧ answer = true := by
  rcases book.markMove_cases asked with chosen | chosen
  · obtain ⟨move, isAnswer⟩ := Prod.mk.inj (chosen.symm.trans decided)
    exact ⟨Move.mark.inj move, isAnswer.symm⟩
  · cases chosen.symm.trans decided

private theorem unmarkMove_ne_mark {asked path : String} {answer : Bool} :
    book.unmarkMove asked ≠ (.mark path, answer) := by
  unfold unmarkMove
  split <;> exact nofun

private theorem tabMove_ne_mark {index : Nat} {button : MouseButton} {keys : HeldKeys}
    {path : String}
    {answer : Bool} : book.tabMove index button keys ≠ (.mark path, answer) := by
  unfold tabMove
  split
  · exact nofun
  · split
    · split
      · split
        · exact unmarkMove_ne_mark
        · exact nofun
      · exact nofun
    · split <;> exact nofun

private theorem dragMove?_ne_mark {y : Px} {path : String} {answer : Bool} :
    book.dragMove? y ≠ some (.mark path, answer) := by
  unfold dragMove?
  split
  · intro decided
    obtain ⟨progress, -, result⟩ := Option.bind_eq_some_iff.mp decided
    cases result
  · exact nofun

/-- Only a click on the add button with the left button marks a path, that of the open page. -/
theorem eq_of_widgetMove?_mark {y : Px} {button : MouseButton} {keys : HeldKeys}
    {hit : Option Widget} {path : String} {answer : Bool}
    (decided : book.widgetMove? y button keys hit = some (.mark path, answer)) :
    hit = some .addBookmark ∧ button = .left ∧ book.active.path = path ∧ answer = true := by
  unfold widgetMove? at decided
  split at decided
  · cases decided
  · exact absurd (Option.some.inj decided) tabMove_ne_mark
  · split at decided <;> cases decided
  · split at decided
    · next left =>
      obtain ⟨isPath, yes⟩ := eq_of_markMove (Option.some.inj decided)
      exact ⟨rfl, left, isPath, yes⟩
    · cases decided
  · split at decided
    · exact absurd decided dragMove?_ne_mark
    · cases decided

theorem Step.adds_of_mark {step : Step} {path : String}
    (decided : step.book.moveOf? step.action = some (.mark path, step.answer)) :
    step.Adds path := by
  unfold Step.Adds
  cases action : step.action with
  | addBookmark asked =>
    rw [action] at decided
    obtain ⟨isPath, yes⟩ := eq_of_markMove (Option.some.inj decided)
    exact ⟨yes, .inl (isPath ▸ rfl)⟩
  | click x y button keys =>
    rw [action] at decided
    obtain ⟨hit, found, chosen⟩ := Option.bind_eq_some_iff.mp decided
    obtain ⟨isAdd, left, isPath, yes⟩ := eq_of_widgetMove?_mark chosen
    exact ⟨yes, .inr ⟨x, y, keys, left ▸ rfl, isAdd ▸ found, isPath⟩⟩
  | removeBookmark asked =>
    rw [action] at decided
    exact absurd (Option.some.inj decided) unmarkMove_ne_mark
  | clickTab index button keys =>
    rw [action] at decided
    exact absurd (Option.some.inj decided) tabMove_ne_mark
  | drag y =>
    rw [action] at decided
    exact absurd decided dragMove?_ne_mark
  | render x y tick =>
    rw [action] at decided
    obtain ⟨drawn, -, result⟩ := Option.bind_eq_some_iff.mp decided
    cases result
  | setPage asked => rw [action] at decided; cases decided
  | setProgress progress => rw [action] at decided; cases decided
  | resize screenWidth screenHeight => rw [action] at decided; cases decided

theorem Step.needs_of_adds {step : Step} {path : String} {move : Move} (adds : step.Adds path)
    (decided : step.book.moveOf? step.action = some (move, step.answer)) :
    move.needs? = some path ∨ step.book.active.path = path := by
  obtain ⟨yes, asked | ⟨x, y, keys, -, -, isOpen⟩⟩ := adds
  · left
    rw [asked, yes] at decided
    rcases step.book.markMove_cases path with chosen | chosen
    · have isMark := Prod.mk.inj (chosen.symm.trans (Option.some.inj decided))
      rw [← isMark.1, Move.needs?]
    · cases chosen.symm.trans (Option.some.inj decided)
  · exact .inr isOpen

/-- One step keeps the paths that were kept, the path that it opens and the path that it adds. -/
theorem mem_cachedPaths_of_taken {step : Step} (taken : step.Taken)
    (wellShelved : step.before.WellShelved) (path : String) :
    path ∈ step.after.cachedPaths ↔
      path ∈ step.before.cachedPaths ∨ step.after.active.path = path ∨ step.Adds path := by
  have shelved : step.book.WellShelved := wellShelved.withFont step.font
  have sameCache : step.book.cachedPaths = step.before.cachedPaths := rfl
  obtain ⟨move, decided, made⟩ := taken.exists_move
  have opened : step.after.active.path = move.opens?.getD step.book.active.path :=
    (Move.agrees_change made).path.trans (shelved.path_change move)
  rw [mem_cachedPaths_of_make? shelved made, sameCache]
  constructor
  · rintro (kept | needed)
    · exact .inl kept
    · cases move with
      | goTo asked =>
        rw [opened]
        exact .inr (.inl (Option.some.inj needed))
      | mark asked =>
        rw [Option.some.inj needed] at decided
        exact .inr (.inr (Step.adds_of_mark decided))
      | _ => cases needed
  · have openKept : step.book.active.path ∈ step.before.cachedPaths := Finset.mem_insert_self _ _
    rintro (kept | rfl | adds)
    · exact .inl kept
    · rw [opened]
      cases move with
      | goTo asked => exact .inr rfl
      | _ => exact .inl openKept
    · rcases Step.needs_of_adds adds decided with needed | rfl
      · exact .inr needed
      · exact .inl openKept

theorem Run.keeps (run : Run start steps book) (keeps : start.Keeps settings source) :
    book.Keeps settings source := by
  induction run with
  | nil => exact keeps
  | @concat steps step run taken ih =>
    obtain ⟨move, decided, made⟩ := taken.exists_move
    have found : step.book.Keeps settings source := ih.withFont step.font
    exact (found.change move).agrees (Move.agrees_change made)

/-- The paths kept after a run are those kept before it, those opened on the way and those added. -/
theorem Run.mem_cachedPaths_iff (run : Run start steps book)
    (keeps : start.Keeps settings source) (path : String) :
    path ∈ book.cachedPaths ↔
      path ∈ start.cachedPaths ∨ ∃ step ∈ steps, step.after.active.path = path ∨ step.Adds path := by
  induction run with
  | nil => simp
  | @concat steps step run taken ih =>
    rw [mem_cachedPaths_of_taken taken (run.keeps keeps).wellShelved, ih, or_assoc]
    simp only [List.mem_append, List.mem_singleton, or_and_right, exists_or, exists_eq_left]

theorem Opened.cachedPaths_eq (opened : start.Opened settings source) :
    start.cachedPaths = {settings.mainMenu} := by
  rw [cachedPaths, opened.emptyShelf, opened.path_active]
  rfl

/-- However a book is used, it keeps each page that was opened or bookmarked, once and under its own
path, with the text that its path has at the source, and it has a page for every tab. -/
theorem Run.pages_kept {settings : Settings} {source : String → Option Document} {font : Font}
    {screenWidth screenHeight : Px} {start book : Book} {steps : List Step}
    (opened : openAt settings source font screenWidth screenHeight = .ok start)
    (run : Run start steps book) :
    book.active.path ∉ book.shelf.paths ∧
    (∀ entry ∈ book.shelf.entries, entry.2.path = entry.1) ∧
    (∀ path, path ∈ book.cachedPaths ↔ path = settings.mainMenu ∨
      ∃ step ∈ steps, step.after.active.path = path ∨ step.Adds path) ∧
    book.pageCount = book.cachedPaths.card ∧
    (∀ path, (book.page? path).isSome ↔ path ∈ book.cachedPaths) ∧
    (∀ tab ∈ book.bookmarks.tabs, (book.page? tab.page).isSome) ∧
    ∀ path page, book.page? path = some page → page.path = path ∧
      page.title = (Page.fresh path (source path)).title ∧
      page.paragraphs = (Page.fresh path (source path)).paragraphs := by
  have atStart := opened_of_openAt opened
  have keeps := run.keeps atStart.keeps
  refine ⟨keeps.wellShelved.apart, keeps.wellShelved.keyed, ?_,
    keeps.wellShelved.card_cachedPaths.symm, fun path => mem_cachedPaths.symm, ?_, ?_⟩
  · intro path
    rw [run.mem_cachedPaths_iff atStart.keeps, atStart.cachedPaths_eq, Finset.mem_singleton]
  · intro tab member
    exact keeps.marked tab.page (Bookmarks.page_mem_pages member)
  · intro path page found
    exact ⟨keeps.wellShelved.path_of_page? found, keeps.faithful path page found⟩

/-- A way through a book that opens two pages besides the main one and leaves no bookmark. -/
def tour : List Action :=
  [.addBookmark "/a.md", .setPage "/b.md", .setProgress 1, .clickTab 0 .left {},
    .clickTab 0 .right ⟨true, true⟩, .resize 640 480, .setPage "/b.md", .render 20 20 0]

theorem Run.pages_kept_tour :
    ∃ start steps book,
      openAt {} (fun path => some ⟨path, "# One\ntwo"⟩) Font.standard 800 600 = .ok start ∧
      start.replay? tour = some (steps, book) ∧ book.bookmarks.tabs = [] ∧
      book.cachedPaths.card = 3 ∧ (book.page? "/a.md").isSome := by
  have counted :
      ((openAt {} (fun path => some ⟨path, "# One\ntwo"⟩) Font.standard 800 600).toOption.bind
        fun start => (start.replay? tour).map fun ran =>
          (ran.2.bookmarks.tabs, ran.2.pageCount, (ran.2.page? "/a.md").isSome)) =
        some ([], 3, true) := by
    decide +kernel
  obtain ⟨start, started, rest⟩ := Option.bind_eq_some_iff.mp counted
  obtain ⟨⟨steps, book⟩, replayed, result⟩ := Option.map_eq_some_iff.mp rest
  obtain ⟨noTabs, counts⟩ := Prod.mk.inj result
  obtain ⟨three, kept⟩ := Prod.mk.inj counts
  have opened := Fault.toOption_eq_some_iff.mp started
  have pages := Run.pages_kept opened (run_of_replay? replayed)
  exact ⟨start, steps, book, opened, replayed, noTabs, pages.2.2.2.1 ▸ three, kept⟩

end Handbook.Book
