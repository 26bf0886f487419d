import Handbook.Proofs.Answers
import Handbook.Proofs.Book.Cache
import Handbook.Proofs.Book.Decisions

namespace Handbook.Book

/-- The progress that a step asks for while the page of a path is open. -/
def Step.asks? (step : Step) (path : String) : Option Binary32 :=
  if step.before.active.path = path then step.book.asked? step.action else none

/-- The direction in which a step changes the dye of the page of a path, by a right click on its tab
that has an effect and does not hold both keys. -/
def Step.dyes? (step : Step) (path : String) : Option Bool :=
  match step.book.dyed? step.action step.answer with
  | some (page, backwards) => if page = path then some backwards else none
  | none => none

/-- What some steps asked of the page of a path, in their order. -/
def asks (path : String) (steps : List Step) : List Binary32 :=
  steps.filterMap fun step => step.asks? path

/-- How some steps changed the dye of the page of a path, in their order. -/
def dyes (path : String) (steps : List Step) : List Bool :=
  steps.filterMap fun step => step.dyes? path

variable {settings : Settings} {source : String → Option Document} {start book other next : Book}
  {steps : List Step}

theorem pageOrLoad_of_page? {path : String} {page : Page} (found : book.page? path = some page) :
    book.pageOrLoad path = page := by
  rw [pageOrLoad, found, Option.getD_some]

theorem WellShelved.pageOrLoad_change (wellShelved : book.WellShelved) (move : Move)
    (path : String) :
    (move.change book).pageOrLoad path =
      if path = book.active.path then move.touch book.active else book.pageOrLoad path := by
  have source := move.source_change book
  rw [pageOrLoad, wellShelved.page?_change move path, source]
  split
  · next needed =>
    rw [Option.getD_some]
    split
    · next isOpen =>
      rw [isOpen, pageOrLoad_of_page? (page?_active book)]
      cases move with
      | goTo asked => rfl
      | mark asked => rfl
      | _ => cases needed
    · rfl
  · split <;> rfl

theorem Agrees.pageOrLoad (agrees : book.Agrees other) (path : String) :
    (other.pageOrLoad path).unflowed = (book.pageOrLoad path).unflowed := by
  have same := agrees.page? path
  unfold Book.pageOrLoad
  rw [agrees.source]
  cases kept : book.page? path with
  | none =>
    rw [kept, Option.map_none, Option.map_eq_none_iff] at same
    rw [same]
  | some page =>
    rw [kept] at same
    obtain ⟨former, found, unflowed⟩ := Option.map_eq_some_iff.mp same
    rw [found]
    exact unflowed

theorem Move.progress_touch (move : Move) (page : Page) :
    (move.touch page).progress = (move.scroll?.map Page.progressFor).getD page.progress := by
  cases move <;> rfl

theorem Move.dye_touch (move : Move) (page : Page) :
    (move.touch page).dye = (move.dye?.map page.dye.cycle).getD page.dye := by
  cases move <;> rfl

theorem Step.asks?_eq {step : Step} {move : Move}
    (decided : step.book.moveOf? step.action = some (move, step.answer)) (path : String) :
    step.asks? path = if path = step.book.active.path then move.scroll? else none := by
  unfold Step.asks?
  rw [← (fits_of_moveOf? decided).scroll]
  exact if_congr eq_comm rfl rfl

theorem Step.dyes?_eq {step : Step} {move : Move}
    (decided : step.book.moveOf? step.action = some (move, step.answer)) (path : String) :
    step.dyes? path = if path = step.book.active.path then move.dye? else none := by
  unfold Step.dyes?
  rw [← (fits_of_moveOf? decided).dye]
  cases move.dye? with
  | none => simp
  | some backwards => exact if_congr eq_comm rfl rfl

private theorem pageOrLoad_of_taken {step : Step} (taken : step.Taken)
    (wellShelved : step.before.WellShelved) (path : String) :
    (step.after.pageOrLoad path).progress =
        ((step.asks? path).map Page.progressFor).getD (step.before.pageOrLoad path).progress ∧
      (step.after.pageOrLoad path).dye =
        ((step.dyes? path).map (step.before.pageOrLoad path).dye.cycle).getD
          (step.before.pageOrLoad path).dye := by
  have shelved : step.book.WellShelved := wellShelved.withFont step.font
  obtain ⟨move, decided, made⟩ := taken.exists_move
  have unflowed := (Move.agrees_change made).pageOrLoad path
  rw [shelved.pageOrLoad_change move path] at unflowed
  have progress := congrArg Page.progress unflowed
  have dye := congrArg Page.dye unflowed
  rw [Step.asks?_eq decided, Step.dyes?_eq decided]
  by_cases isOpen : path = step.book.active.path
  · have isActive : step.before.pageOrLoad path = step.book.active := by
      rw [isOpen]
      exact pageOrLoad_of_page? (page?_active step.before)
    rw [if_pos isOpen] at progress dye ⊢
    rw [if_pos isOpen, isActive]
    exact ⟨progress.trans (move.progress_touch _), dye.trans (move.dye_touch _)⟩
  · rw [if_neg isOpen] at progress dye ⊢
    rw [if_neg isOpen]
    exact ⟨progress, dye⟩

theorem Run.pageOrLoad_eq (run : Run start steps book) (keeps : start.Keeps settings source)
    (path : String) :
    (book.pageOrLoad path).progress =
        ((asks path steps).map Page.progressFor).getLastD (start.pageOrLoad path).progress ∧
      (book.pageOrLoad path).dye =
        (dyes path steps).foldl Dye.cycle (start.pageOrLoad path).dye := by
  induction run with
  | nil => exact ⟨rfl, rfl⟩
  | @concat steps step run taken ih =>
    obtain ⟨progress, dye⟩ := pageOrLoad_of_taken taken (run.keeps keeps).wellShelved path
    rw [progress, dye, ih.1, ih.2]
    constructor
    · simp only [asks, List.map_filterMap]
      rw [getLastD_filterMap_concat]
    · unfold dyes
      rw [List.filterMap_append, List.foldl_append]
      cases dyed : step.dyes? path <;> simp [dyed]

theorem Opened.pageOrLoad (opened : start.Opened settings source) (path : String) :
    (start.pageOrLoad path).unflowed = load source path := by
  by_cases isMain : start.active.path = path
  · subst isMain
    rw [pageOrLoad_of_page? (page?_active start), opened.atMain, opened.path_active]
  · rw [Book.pageOrLoad, page?_of_ne isMain, opened.emptyShelf, opened.hasSource]
    exact Page.unflowed_fresh path _

/-- Actions that open, mark, place or show pages and leave their scroll and their dye alone. -/
def Action.SparesPages : Action → Prop
  | .setPage _ | .resize _ _ | .addBookmark _ | .removeBookmark _ | .render _ _ _ => True
  | _ => False

private theorem quiet_of_sparesPages {action : Action} (spares : action.SparesPages) (book : Book) :
    book.asked? action = none ∧ ∀ answer, book.dyed? action answer = none := by
  cases action with
  | setPage path => exact ⟨rfl, fun _ => rfl⟩
  | resize screenWidth screenHeight => exact ⟨rfl, fun _ => rfl⟩
  | addBookmark path => exact ⟨rfl, fun _ => rfl⟩
  | removeBookmark path => exact ⟨rfl, fun _ => rfl⟩
  | render x y tick => exact ⟨rfl, fun _ => rfl⟩
  | _ => cases spares

theorem Step.Taken.spares {step : Step} (taken : step.Taken) {path : String}
    (spares : step.action.SparesPages ∨ step.before.active.path ≠ path) :
    step.asks? path = none ∧ step.dyes? path = none := by
  rcases spares with spares | elsewhere
  · obtain ⟨notAsked, notDyed⟩ := quiet_of_sparesPages spares step.book
    unfold Step.asks? Step.dyes?
    rw [notAsked, notDyed]
    exact ⟨ite_self none, rfl⟩
  · obtain ⟨move, decided, -⟩ := taken.exists_move
    have notOpen : path ≠ step.book.active.path := Ne.symm elsewhere
    rw [Step.asks?_eq decided, Step.dyes?_eq decided, if_neg notOpen, if_neg notOpen]
    exact ⟨rfl, rfl⟩

theorem Step.Taken.exists_page? {step : Step} (taken : step.Taken)
    (wellShelved : step.before.WellShelved) {path : String} {former : Page}
    (kept : step.before.page? path = some former) :
    ∃ later, step.after.page? path = some later ∧
      later.progress = ((step.asks? path).map Page.progressFor).getD former.progress ∧
      later.dye = ((step.dyes? path).map former.dye.cycle).getD former.dye := by
  have cached : path ∈ step.before.cachedPaths := by
    rw [mem_cachedPaths, kept]
    rfl
  have stillCached := (mem_cachedPaths_of_taken taken wellShelved path).mpr (.inl cached)
  obtain ⟨later, found⟩ := Option.isSome_iff_exists.mp (mem_cachedPaths.mp stillCached)
  have memory := pageOrLoad_of_taken taken wellShelved path
  rw [pageOrLoad_of_page? found, pageOrLoad_of_page? kept] at memory
  exact ⟨later, found, memory⟩

/-- Uses of a page and its tab between which the page is closed and its mark taken away: a click on
the slider, one right click forwards and one backwards, and a last one that removes the mark. -/
def toAndFro : List Action :=
  [.addBookmark "/a.md", .setPage "/a.md", .click 675 40 .left {}, .clickTab 0 .right {},
    .clickTab 0 .right ⟨true, false⟩, .clickTab 0 .right {}, .clickTab 0 .right ⟨true, true⟩,
    .setPage "/main_menu.md", .setProgress 1, .addBookmark "/a.md"]

end Handbook.Book
