import Mathlib.Tactic.SplitIfs
import Handbook.Proofs.Binary32.Rounding
import Handbook.Proofs.Book.Cache
import Handbook.Proofs.Book.Strip

namespace Handbook

theorem Page.progressFor_of_progress? {rail : Rect} {thumbHeight y : Px} {progress : Binary32}
    (formed : Slider.progress? rail thumbHeight y = some progress) :
    progressFor progress = progress := by
  obtain ⟨travel, -, formed⟩ := Option.bind_eq_some_iff.mp formed
  split at formed
  · rw [← Option.some.inj formed]
    decide
  · next moves =>
    obtain ⟨below, -, formed⟩ := Option.bind_eq_some_iff.mp formed
    obtain ⟨top, -, formed⟩ := Option.bind_eq_some_iff.mp formed
    rw [← Option.some.inj formed]
    have nonzero : travel.val ≠ 0 := by omega
    have number := Binary32.div_ne_nan top nonzero
    rw [progressFor, Binary32.isNaN_clampUnit number, if_neg Bool.false_ne_true,
      Binary32.clampUnit_clampUnit]

namespace Book

variable {settings : Settings} {source : String → Option Document} {font : Font}
  {start book next : Book} {steps : List Step} {x y : Px} {button : MouseButton} {keys : HeldKeys}
  {hit : Option Widget} {move : Move} {answer : Bool}

private theorem eq_stay_of_markMove {path : String} (refused : book.markMove path = (move, false)) :
    move = .stay := by
  rcases book.markMove_cases path with chosen | chosen
  · cases chosen.symm.trans refused
  · cases chosen.symm.trans refused
    rfl

private theorem eq_stay_of_unmarkMove {path : String}
    (refused : book.unmarkMove path = (move, false)) :
    move = .stay := by
  unfold unmarkMove at refused
  split at refused <;> cases refused
  rfl

private theorem eq_stay_of_tabMove {index : Nat}
    (refused : book.tabMove index button keys = (move, false)) :
    move = .stay := by
  unfold tabMove at refused
  split at refused
  · cases refused
    rfl
  · split at refused
    · split at refused
      · split at refused
        · exact eq_stay_of_unmarkMove refused
        · cases refused
      · cases refused
        rfl
    · split at refused <;> cases refused
      rfl

private theorem eq_stay_of_dragMove? (refused : book.dragMove? y = some (move, false)) :
    move = .stay := by
  unfold dragMove? at refused
  split at refused
  · obtain ⟨progress, -, result⟩ := Option.bind_eq_some_iff.mp refused
    cases result
  · cases refused
    rfl

private theorem eq_stay_of_widgetMove?
    (refused : book.widgetMove? y button keys hit = some (move, false)) : move = .stay := by
  unfold widgetMove? at refused
  split at refused
  · cases refused
    rfl
  · exact eq_stay_of_tabMove (Option.some.inj refused)
  · split at refused <;> cases refused
    rfl
  · split at refused
    · exact eq_stay_of_markMove (Option.some.inj refused)
    · cases refused
      rfl
  · split at refused
    · exact eq_stay_of_dragMove? refused
    · cases refused
      rfl

private theorem eq_stay_of_moveOf? {action : Action}
    (refused : book.moveOf? action = some (move, false)) :
    move = .stay := by
  cases action with
  | addBookmark path => exact eq_stay_of_markMove (Option.some.inj refused)
  | removeBookmark path => exact eq_stay_of_unmarkMove (Option.some.inj refused)
  | clickTab index button keys => exact eq_stay_of_tabMove (Option.some.inj refused)
  | click x y button keys =>
    obtain ⟨hit, -, chosen⟩ := Option.bind_eq_some_iff.mp refused
    exact eq_stay_of_widgetMove? chosen
  | drag y => exact eq_stay_of_dragMove? refused
  | render x y tick =>
    obtain ⟨drawn, -, result⟩ := Option.bind_eq_some_iff.mp refused
    cases result
  | setPage path => cases refused
  | setProgress progress => cases refused
  | resize screenWidth screenHeight => cases refused

theorem Step.Taken.eq_of_refused {step : Step} (taken : step.Taken) (refused : step.answer = false) :
    step.after = step.book := by
  obtain ⟨move, decided, made⟩ := taken.exists_move
  rw [refused] at decided
  rw [eq_stay_of_moveOf? decided] at made
  exact (Option.some.inj made).symm

/-- The part is there and can be used. -/
def Works (book : Book) : Option Widget → Prop
  | some (.tab index) => ∃ tab, book.bookmarks.get? index = some tab
  | some .home => book.homeVisible = true
  | some .addBookmark => book.addVisible = true ∧ book.addEnabled = true
  | some .slider => book.sliderEnabled = true
  | none => True

private theorem exists_tab_of_tabUnder? {tabs : List Tab} {first index : Nat}
    (under : book.tabUnder? x y first tabs = some (some index)) :
    ∃ offset tab, index = first + offset ∧ tabs[offset]? = some tab := by
  induction tabs generalizing first with
  | nil => cases under
  | cons tab rest ih =>
    obtain ⟨rect, -, under⟩ := Option.bind_eq_some_iff.mp under
    obtain ⟨inside, -, under⟩ := Option.bind_eq_some_iff.mp under
    cases inside with
    | true =>
      cases under
      exact ⟨0, tab, rfl, rfl⟩
    | false =>
      obtain ⟨offset, later, isIndex, found⟩ := ih under
      exact ⟨offset + 1, later, by omega, found⟩

private theorem works_of_homeUnder? (under : book.homeUnder? x y = some true) :
    book.Works (some .home) := by
  unfold homeUnder? at under
  split at under
  · assumption
  · cases under

private theorem works_of_addUnder? (under : book.addUnder? x y = some true) :
    book.Works (some .addBookmark) := by
  unfold addUnder? at under
  split at under
  · next shown => exact Bool.and_eq_true_iff.mp shown
  · cases under

private theorem works_of_sliderUnder? (under : book.sliderUnder? x y = some true) :
    book.Works (some .slider) := by
  unfold sliderUnder? at under
  split at under
  · assumption
  · cases under

private theorem works_of_hit? (under : book.hit? x y = some hit) : book.Works hit := by
  obtain ⟨tabHit, onTab, under⟩ := Option.bind_eq_some_iff.mp under
  cases tabHit with
  | some index =>
    cases under
    obtain ⟨offset, tab, isIndex, found⟩ := exists_tab_of_tabUnder? onTab
    rw [Nat.zero_add] at isIndex
    subst isIndex
    exact ⟨tab, found⟩
  | none =>
    obtain ⟨onHome, homeUnder, under⟩ := Option.bind_eq_some_iff.mp under
    cases onHome with
    | true =>
      cases under
      exact works_of_homeUnder? homeUnder
    | false =>
      obtain ⟨onAdd, addUnder, under⟩ := Option.bind_eq_some_iff.mp under
      cases onAdd with
      | true =>
        cases under
        exact works_of_addUnder? addUnder
      | false =>
        obtain ⟨onSlider, sliderUnder, under⟩ := Option.bind_eq_some_iff.mp under
        cases onSlider with
        | true =>
          cases under
          exact works_of_sliderUnder? sliderUnder
        | false =>
          cases under
          trivial

/-- The page of a path is opened, loaded if it was not kept, and flowed into the view. Every other
page is kept as it was, and nothing else changes. -/
structure Opens (book next : Book) (path : String) : Prop where
  isOpen : next.active.path = path
  page : (book.pageOrLoad path).refresh? book.font book.viewport.visible = some next.active
  others : ∀ other, other ≠ path → next.page? other = book.page? other
  rest : next = { book with active := next.active, shelf := next.shelf }

/-- The strip has tabs for these pages, each at the place that the view gives it, and nothing else
changes. -/
structure Retabs (book next : Book) (pages : List String) : Prop where
  pages : next.bookmarks.pages = pages
  sound : next.bookmarks.Sound
  placed : next.bookmarks.Placed book.viewport.tabPlace?
  capacity : next.bookmarks.capacity = book.bookmarks.capacity
  rest : next = { book with bookmarks := next.bookmarks }

/-- The open page has this progress and is flowed into the view, and nothing else changes. -/
structure Scrolls (book next : Book) (progress : Binary32) : Prop where
  reached : next.active.progress = progress
  page : Page.refresh? { book.active with progress := progress } book.font book.viewport.visible =
    some next.active
  rest : next = { book with active := next.active }

private theorem active_turnTo (book : Book) (path : String) :
    (book.turnTo path).active = book.pageOrLoad path := by
  by_cases same : book.active.path = path
  · rw [turnTo, if_pos same, pageOrLoad, ← same, page?_active, Option.getD_some]
  · rw [turnTo_of_ne same]

theorem viewport_turnTo (book : Book) (path : String) :
    (book.turnTo path).viewport = book.viewport := by
  unfold turnTo
  split <;> rfl

private theorem opens_of_make? (wellShelved : book.WellShelved) {path : String}
    (made : (Move.goTo path).make? book = some next) : book.Opens next path := by
  have agrees := Move.agrees_change made
  have isOpen : next.active.path = path := agrees.path.trans (wellShelved.path_turnTo path)
  rw [Move.make?, setPage?_eq] at made
  obtain ⟨active, refreshed, result⟩ := Option.bind_eq_some_iff.mp made
  cases result
  rw [font_turnTo, viewport_turnTo, active_turnTo] at refreshed
  refine ⟨isOpen, refreshed, ?_, ?_⟩
  · intro other different
    have notOpen : (book.turnTo path).active.path ≠ other := by
      rw [wellShelved.path_turnTo path]
      exact different.symm
    have kept := wellShelved.page?_turnTo path other
    rw [if_neg different, page?_of_ne notOpen] at kept
    rw [page?_of_ne fun isOther => different (isOther.symm.trans isOpen), kept]
  · unfold turnTo
    split <;> rfl

private theorem scrolls_of_make? {progress : Binary32} (set : Page.progressFor progress = progress)
    (made : (Move.scroll progress).make? book = some next) : book.Scrolls next progress := by
  have same : next.active.unflowed = (book.active.setProgress progress).unflowed :=
    (Move.agrees_change made).active
  obtain ⟨active, refreshed, result⟩ := Option.bind_eq_some_iff.mp made
  cases result
  unfold Page.setProgress at same refreshed
  rw [set] at same refreshed
  exact ⟨congrArg Page.progress same, refreshed, rfl⟩

/-- Once its tabs are placed, a book has the tabs of the strip that it was given. -/
theorem retabs_of_placeTabs? {strip : Bookmarks} (sound : strip.Sound)
    (capacity : strip.capacity = book.bookmarks.capacity)
    (placed : placeTabs? { book with bookmarks := strip } = some next) :
    book.Retabs next strip.pages := by
  obtain ⟨bookmarks, laid, rfl⟩ := exists_of_placeTabs? placed
  have moved := sound.layout? laid
  have inPlace := Bookmarks.placed_of_layout? laid
  obtain ⟨places, -, rfl⟩ := Bookmarks.eq_of_layout? laid
  exact ⟨rfl, moved, inPlace, capacity, rfl⟩

private theorem retabs_of_unmark (sound : book.bookmarks.Sound) {index : Nat} {path : String}
    (isPage : book.bookmarks.pages[index]? = some path)
    (made : (Move.unmark path).make? book = some next) :
    book.Retabs next (book.bookmarks.pages.eraseIdx index) := by
  obtain ⟨⟨place, shorter⟩, removed, placed⟩ := Option.bind_eq_some_iff.mp made
  rw [sound.remove?_eq_some_iff.mpr ⟨isPage, rfl⟩] at removed
  cases removed
  exact retabs_of_placeTabs? (sound.eraseAt index) rfl placed

private theorem retabs_of_mark (sound : book.bookmarks.Sound)
    (made : (Move.mark book.active.path).make? book = some next) :
    book.Retabs next (book.bookmarks.pages ++ [book.active.path]) := by
  obtain ⟨longer, added, placed⟩ := Option.bind_eq_some_iff.mp made
  have served : book.bookmarks.serve? (.add book.active.path) = some longer := by
    rw [Bookmarks.serve?, added]
    rfl
  have longerSound := sound.serve? served
  have isLonger := Bookmarks.eq_append_of_add? added
  subst isLonger
  -- The open page is kept, so that nothing has to be loaded.
  rw [shelfWith_of_kept book.page?_active] at placed
  exact retabs_of_placeTabs? longerSound rfl placed

/-- The part under a click answers to the button: a tab to the left one unless its page is open and
to the right one if it is, every other part to the left one. -/
def Answers (book : Book) (button : MouseButton) : Option Widget → Prop
  | some (.tab index) => ∃ tab, book.bookmarks.get? index = some tab ∧
      (button = .left ∧ book.active.path ≠ tab.page ∨
        button = .right ∧ book.active.path = tab.page)
  | some .home => button = .left
  | some .addBookmark => button = .left
  | some .slider => button = .left
  | none => False

/-- What a click on a part that answers to it makes of the book. -/
def Effect (book next : Book) (y : Px) (button : MouseButton) (keys : HeldKeys) :
    Option Widget → Prop
  | some (.tab index) => ∃ tab, book.bookmarks.get? index = some tab ∧
      if button = .left then book.Opens next tab.page
      else if keys.control && keys.shift then
        book.Retabs next (book.bookmarks.pages.eraseIdx index)
      else next = { book with active := book.active.cycleDye keys.shift }
  | some .home => book.Opens next book.settings.mainMenu
  | some .addBookmark => book.Retabs next (book.bookmarks.pages ++ [book.active.path])
  | some .slider => ∃ progress,
      Slider.progress? book.viewport.rail book.settings.sliderHeight y = some progress ∧
        book.Scrolls next progress
  | none => False

/-- A click has this outcome: it is answered exactly when the part under it answers to the button,
and then it has the effect of that part. -/
structure Clicked (book next : Book) (y : Px) (button : MouseButton) (keys : HeldKeys)
    (hit : Option Widget) (answer : Bool) : Prop where
  answered : answer = true ↔ book.Answers button hit
  effect : answer = true → book.Effect next y button keys hit

theorem Clicked.granted (due : book.Answers button hit)
    (effect : book.Effect next y button keys hit) :
    book.Clicked next y button keys hit true :=
  ⟨iff_of_true rfl due, fun _ => effect⟩

theorem Clicked.refused (notDue : ¬ book.Answers button hit) :
    book.Clicked next y button keys hit false :=
  ⟨iff_of_false nofun notDue, nofun⟩

private theorem clicked_tab (wellShelved : book.WellShelved) (sound : book.bookmarks.Sound)
    {index : Nat}
    {tab : Tab} (found : book.bookmarks.get? index = some tab)
    (decided : book.tabMove index button keys = (move, answer))
    (made : move.make? book = some next) :
    book.Clicked next y button keys (some (.tab index)) answer := by
  have answers : book.Answers button (some (.tab index)) ↔
      (button = .left ∧ book.active.path ≠ tab.page ∨
        button = .right ∧ book.active.path = tab.page) := by
    simp [Answers, found]
  unfold tabMove at decided
  rw [found] at decided
  dsimp only at decided
  split_ifs at decided with isOpen isRight bothKeys isLeft
  · -- The page of a tab has a tab, so that it can be removed.
    have isPage := (Bookmarks.get?_eq_some_iff.mp found).1
    have removable : (book.bookmarks.remove? tab.page).isSome = true := by
      rw [sound.remove?_eq_some_iff.mpr ⟨isPage, rfl⟩]
      rfl
    rw [unmarkMove, if_pos removable] at decided
    cases decided
    subst isRight
    refine .granted (answers.mpr (.inr ⟨rfl, isOpen⟩)) ⟨tab, found, ?_⟩
    rw [if_neg nofun, if_pos bothKeys]
    exact retabs_of_unmark sound isPage made
  · cases decided
    subst isRight
    refine .granted (answers.mpr (.inr ⟨rfl, isOpen⟩)) ⟨tab, found, ?_⟩
    rw [if_neg nofun, if_neg bothKeys]
    exact (Option.some.inj made).symm
  · cases decided
    refine .refused fun due => ?_
    rcases answers.mp due with ⟨-, notOpen⟩ | ⟨right, -⟩
    · exact notOpen isOpen
    · exact isRight right
  · cases decided
    refine .granted (answers.mpr (.inl ⟨isLeft, isOpen⟩)) ⟨tab, found, ?_⟩
    rw [if_pos isLeft]
    exact opens_of_make? wellShelved made
  · cases decided
    refine .refused fun due => ?_
    rcases answers.mp due with ⟨left, -⟩ | ⟨-, opened⟩
    · exact isLeft left
    · exact isOpen opened

/-- The add button is offered only for a page without a tab while there is room for one. -/
theorem retabs_of_addBookmark (sound : book.bookmarks.Sound)
    (works : book.Works (some .addBookmark))
    (decided : book.markMove book.active.path = (move, answer))
    (made : move.make? book = some next) :
    answer = true ∧ book.Retabs next (book.bookmarks.pages ++ [book.active.path]) := by
  obtain ⟨shown, enabled⟩ := works
  have room : book.bookmarks.isFull = false := by
    rw [addVisible, Bool.and_eq_true_iff, Bool.not_eq_true'] at shown
    exact shown.2
  have absent : book.bookmarks.contains book.active.path = false := by
    rw [addEnabled, Bool.not_eq_true'] at enabled
    exact enabled
  have addable : (book.bookmarks.add? book.active.path).isSome = true := by
    rw [Bookmarks.add?, absent, room]
    rfl
  rw [markMove, if_pos addable] at decided
  cases decided
  exact ⟨rfl, retabs_of_mark sound made⟩

private theorem scrolls_of_slider (works : book.Works (some .slider))
    (decided : book.dragMove? y = some (move, answer)) (made : move.make? book = some next) :
    answer = true ∧ book.Effect next y button keys (some .slider) := by
  have enabled : book.sliderEnabled = true := works
  rw [dragMove?, if_pos enabled] at decided
  obtain ⟨progress, formed, result⟩ := Option.bind_eq_some_iff.mp decided
  cases result
  exact ⟨rfl, progress, formed, scrolls_of_make? (Page.progressFor_of_progress? formed) made⟩

private theorem clicked_of_widgetMove? (wellShelved : book.WellShelved)
    (sound : book.bookmarks.Sound)
    (works : book.Works hit) (decided : book.widgetMove? y button keys hit = some (move, answer))
    (made : move.make? book = some next) : book.Clicked next y button keys hit answer := by
  rcases hit with _ | widget
  · cases decided
    exact .refused id
  · cases widget with
    | tab index =>
      obtain ⟨tab, found⟩ := works
      exact clicked_tab wellShelved sound found (Option.some.inj decided) made
    | home =>
      rw [widgetMove?] at decided
      split_ifs at decided with isLeft
      · cases decided
        exact .granted isLeft (opens_of_make? wellShelved made)
      · cases decided
        exact .refused isLeft
    | addBookmark =>
      rw [widgetMove?] at decided
      split_ifs at decided with isLeft
      · obtain ⟨rfl, effect⟩ := retabs_of_addBookmark sound works (Option.some.inj decided) made
        exact .granted isLeft effect
      · cases decided
        exact .refused isLeft
    | slider =>
      rw [widgetMove?] at decided
      split_ifs at decided with isLeft
      · obtain ⟨rfl, effect⟩ := scrolls_of_slider works decided made
        exact .granted isLeft effect
      · cases decided
        exact .refused isLeft

/-- Clicks on the page of a low screen: the add button, then the new tab, the slider and the tab
again, which is removed, and last the add button with a button that it does not answer to. -/
def pointing : List Action :=
  [.setPage "/a.md", .click 660 5 .left {}, .click 660 5 .right {}, .click 675 80 .left {},
    .click 660 5 .right ⟨true, true⟩, .click 660 5 .middle {}]

end Book

end Handbook
