import Handbook.Proofs.Book.Clicks
import Handbook.Proofs.Book.Strip
import Handbook.Proofs.Book.Viewport

/-!
Where the parts of the book lie that answer to the mouse. The tabs, the home button and the add button
share one strip on top of the frame, which they fill from right to left without touching; only the
home button reaches down into the frame, and no farther than its height exceeds that of a tab. As the
tabs lie apart, it makes no difference in which order they are asked about a point.
-/

namespace Handbook

namespace Book

variable {settings : Settings} {source : String → Option Document} {font : Font}
  {screenWidth screenHeight : Px} {start book next : Book} {steps : List Step}

/-- The view is that of some screen and every tab is at its place in it, whatever the font. -/
structure LaidOut (settings : Settings) (book : Book) : Prop where
  hasSettings : book.settings = settings
  viewport : ∃ screenWidth screenHeight,
    Viewport.compute? screenWidth screenHeight settings = some book.viewport
  placed : book.bookmarks.Placed book.viewport.tabPlace?

theorem LaidOut.refresh? (laidOut : book.LaidOut settings) (refreshed : book.refresh? = some next) :
    next.LaidOut settings := by
  obtain ⟨page, -, result⟩ := Option.bind_eq_some_iff.mp refreshed
  cases result
  exact ⟨laidOut.hasSettings, laidOut.viewport, laidOut.placed⟩

theorem laidOut_of_placeTabs? (placed : book.placeTabs? = some next)
    (hasSettings : book.settings = settings)
    (viewport : ∃ screenWidth screenHeight,
      Viewport.compute? screenWidth screenHeight settings = some book.viewport) :
    next.LaidOut settings := by
  obtain ⟨bookmarks, laid, rfl⟩ := exists_of_placeTabs? placed
  exact ⟨hasSettings, viewport, Bookmarks.placed_of_layout? laid⟩

theorem LaidOut.make? (laidOut : book.LaidOut settings) {move : Move}
    (made : move.make? book = some next) : next.LaidOut settings := by
  cases move with
  | stay =>
    cases made
    exact laidOut
  | refresh => exact laidOut.refresh? made
  | goTo path =>
    rw [Move.make?, setPage?_eq] at made
    have turned : (book.turnTo path).LaidOut settings := by
      refine ⟨(settings_turnTo book path).trans laidOut.hasSettings, ?_, ?_⟩
      · rw [viewport_turnTo]
        exact laidOut.viewport
      · rw [viewport_turnTo, bookmarks_turnTo]
        exact laidOut.placed
    exact turned.refresh? made
  | scroll progress =>
    have set : LaidOut settings { book with active := book.active.setProgress progress } :=
      ⟨laidOut.hasSettings, laidOut.viewport, laidOut.placed⟩
    exact set.refresh? made
  | resize screenWidth screenHeight =>
    obtain ⟨viewport, computed, made⟩ := Option.bind_eq_some_iff.mp made
    obtain ⟨placed, laid, refreshed⟩ := Option.bind_eq_some_iff.mp made
    rw [laidOut.hasSettings] at computed
    have resized : placed.LaidOut settings :=
      laidOut_of_placeTabs? laid laidOut.hasSettings ⟨screenWidth, screenHeight, computed⟩
    exact resized.refresh? refreshed
  | mark path =>
    obtain ⟨longer, -, laid⟩ := Option.bind_eq_some_iff.mp made
    exact laidOut_of_placeTabs? laid laidOut.hasSettings laidOut.viewport
  | unmark path =>
    obtain ⟨⟨index, shorter⟩, -, laid⟩ := Option.bind_eq_some_iff.mp made
    exact laidOut_of_placeTabs? laid laidOut.hasSettings laidOut.viewport
  | dye backwards =>
    cases made
    exact ⟨laidOut.hasSettings, laidOut.viewport, laidOut.placed⟩

theorem Run.laidOut (opened : openAt settings source font screenWidth screenHeight = .ok start)
    (run : Run start steps book) : book.LaidOut settings := by
  induction run with
  | nil =>
    obtain ⟨-, artwork, viewport, active, -, computed, -, isStart⟩ := exists_of_openAt opened
    rw [isStart]
    refine ⟨rfl, ⟨screenWidth, screenHeight, computed⟩, ?_⟩
    intro index tab found
    cases found
  | @concat steps step run taken ih =>
    obtain ⟨move, -, made⟩ := taken.exists_move
    have before : step.book.LaidOut settings := ⟨ih.hasSettings, ih.viewport, ih.placed⟩
    exact before.make? made

/-- Where a part of the book lies, whether it shows or not. -/
def Lies (book : Book) : Widget → Rect → Prop
  | .tab index, rect => book.tabRect? index = some (some rect)
  | .home, rect => rect = book.viewport.homeButton
  | .addBookmark, rect => book.viewport.addButton? book.bookmarks.size = some rect
  | .slider, rect => rect = book.viewport.rail

/-- The slot of a part in the strip, from right to left: the home button, the tabs and after them the
add button. The slider has none. -/
def slot? (book : Book) : Widget → Option Nat
  | .home => some 0
  | .tab index => some (index + 1)
  | .addBookmark => some (book.bookmarks.size + 1)
  | .slider => none

private theorem exists_slot {widget : Widget} (inStrip : widget ≠ .slider) :
    ∃ slot, book.slot? widget = some slot := by
  cases widget with
  | slider => exact absurd rfl inStrip
  | _ => exact ⟨_, rfl⟩

/-- The first column past the frame. -/
def frameEnd (book : Book) : Int := book.viewport.outer.left.val + book.viewport.outer.width.val

theorem LaidOut.anchored (laidOut : book.LaidOut settings) : book.viewport.Anchored settings := by
  obtain ⟨screenWidth, screenHeight, computed⟩ := laidOut.viewport
  exact Viewport.anchored_of_compute? computed

/-- Whether the tab at an index lies under a point. Where there is no tab, none does. -/
def tabContains? (book : Book) (x y : Px) (index : Nat) : Option Bool := do
  match ← book.tabRect? index with
  | some rect => rect.contains? x y
  | none => return false

/-- The first tab under a point, when the tabs are asked in some order. -/
def searchTabs? (book : Book) (x y : Px) (order : List Nat) : Option (Option Nat) :=
  order.findM? (book.tabContains? x y)

private theorem exists_of_tabContains? {x y : Px} {index : Nat}
    (contains : book.tabContains? x y index = some true) :
    ∃ rect, book.Lies (.tab index) rect ∧ rect.Covers x.val y.val := by
  obtain ⟨answer, isAnswer, contains⟩ := Option.bind_eq_some_iff.mp contains
  cases answer with
  | none => cases contains
  | some rect => exact ⟨rect, isAnswer, Rect.covers_of_contains? contains⟩

private theorem tabUnder?_eq_findM? {x y : Px} {first : Nat} {tabs : List Tab}
    (inStrip : ∀ offset tab, tabs[offset]? = some tab →
      book.bookmarks.get? (first + offset) = some tab) :
    book.tabUnder? x y first tabs =
      (List.range' first tabs.length).findM? (book.tabContains? x y) := by
  induction tabs generalizing first with
  | nil => rfl
  | cons tab rest ih =>
    have here : book.tabContains? x y first = (book.tabRectOf? tab).bind (·.contains? x y) := by
      have found := inStrip 0 tab rfl
      rw [Nat.add_zero] at found
      unfold tabContains? tabRect?
      rw [found]
      dsimp only
      cases book.tabRectOf? tab <;> rfl
    have later := @ih (first + 1) fun offset other found => by
      rw [Nat.add_right_comm]
      exact inStrip (offset + 1) other found
    rw [List.length_cons, List.range'_succ, List.findM?, here, tabUnder?, later]
    cases book.tabRectOf? tab with
    | none => rfl
    | some rect =>
      cases contains : rect.contains? x y with
      | none => simp [contains]
      | some passes => cases passes <;> simp [contains]

private theorem tabUnder?_eq_searchTabs? (sound : book.bookmarks.Sound) {x y : Px} :
    book.tabUnder? x y 0 book.bookmarks.tabs =
      book.searchTabs? x y (List.range book.bookmarks.size) := by
  have asMany : book.bookmarks.tabs.length = book.bookmarks.size := by
    rw [Bookmarks.tabs, List.length_zipWith, ← sound.inStep, Nat.min_self, Bookmarks.size]
  rw [searchTabs?, List.range_eq_range', ← asMany]
  apply tabUnder?_eq_findM?
  intro offset tab found
  rw [Nat.zero_add]
  exact found

theorem hit?_eq_tab_iff {x y : Px} {index : Nat} :
    book.hit? x y = some (some (.tab index)) ↔
      book.tabUnder? x y 0 book.bookmarks.tabs = some (some index) := by
  constructor
  · intro under
    obtain ⟨tabHit, onTab, under⟩ := Option.bind_eq_some_iff.mp under
    cases tabHit with
    | some other =>
      cases under
      exact onTab
    | none =>
      obtain ⟨onHome, -, under⟩ := Option.bind_eq_some_iff.mp under
      cases onHome with
      | true => cases under
      | false =>
        obtain ⟨onAdd, -, under⟩ := Option.bind_eq_some_iff.mp under
        cases onAdd with
        | true => cases under
        | false =>
          obtain ⟨onSlider, -, under⟩ := Option.bind_eq_some_iff.mp under
          cases onSlider <;> cases under
  · intro under
    rw [hit?, under]
    rfl

section Strip

variable {widget other : Widget} {slot otherSlot index : Nat} {rect otherRect : Rect} {x y : Int}
  (laidOut : book.LaidOut settings) (positive : settings.Positive)
  (few : book.bookmarks.size < 2147483648)

include laidOut positive few

theorem tab_extent (formed : book.tabRect? index = some (some rect)) :
    index < book.bookmarks.size ∧
      rect.left.val = book.frameEnd - 2 - (index + 2) * settings.tabWidth.val ∧
      rect.width.val = settings.tabWidth.val ∧
      rect.top.val + rect.height.val = book.viewport.outer.top.val := by
  unfold tabRect? at formed
  split at formed
  · cases formed
  · next tab found =>
    obtain ⟨tabRect, isRect, result⟩ := Option.bind_eq_some_iff.mp formed
    cases result
    obtain ⟨inStrip, -⟩ := List.getElem?_eq_some_iff.mp (Bookmarks.get?_eq_some_iff.mp found).1
    have placed := Viewport.place_of_tabPlace? laidOut.anchored (Nat.lt_trans inStrip few)
      (laidOut.placed index tab found)
    obtain ⟨atPlace, width, onFrame⟩ :=
      Viewport.stands_of_tabRect? laidOut.anchored positive isRect
    rw [atPlace]
    exact ⟨inStrip, placed, width, onFrame⟩

private theorem slot_le (lies : book.Lies widget rect) (inSlot : book.slot? widget = some slot) :
    slot ≤ book.bookmarks.size + 1 := by
  cases widget with
  | home =>
    cases inSlot
    exact Nat.zero_le _
  | tab index =>
    cases inSlot
    have inStrip := (tab_extent laidOut positive few lies).1
    omega
  | addBookmark =>
    cases inSlot
    exact Nat.le_refl _
  | slider => cases inSlot

private theorem eq_of_slot (lies : book.Lies widget rect) (alsoLies : book.Lies other otherRect)
    (inSlot : book.slot? widget = some slot) (alsoInSlot : book.slot? other = some slot) :
    widget = other := by
  have inStrip : ∀ {index rect}, book.Lies (.tab index) rect → index < book.bookmarks.size :=
    fun lies => (tab_extent laidOut positive few lies).1
  cases widget <;> cases other <;> cases inSlot <;> cases alsoInSlot <;> try rfl
  · exact absurd (inStrip alsoLies) (Nat.lt_irrefl _)
  · exact absurd (inStrip lies) (Nat.lt_irrefl _)

/-- Past the home button, no part reaches beyond its slot to the right. -/
theorem end_le_of_slot (lies : book.Lies widget rect)
    (inSlot : book.slot? widget = some (slot + 1)) :
    rect.left.val + rect.width.val ≤ book.frameEnd - 2 - (slot + 1) * settings.tabWidth.val := by
  cases widget with
  | home => cases inSlot
  | tab index =>
    cases inSlot
    obtain ⟨-, left, width, -⟩ := tab_extent laidOut positive few lies
    rw [left, width, Int.add_mul, Int.add_mul]
    omega
  | addBookmark =>
    cases inSlot
    obtain ⟨left, width, -, -⟩ := Viewport.corner_of_addButton? laidOut.anchored few lies
    rw [left, width, frameEnd]
    omega
  | slider => cases inSlot

/-- No part but the add button, which is the last, reaches beyond its slot to the left. -/
theorem le_start_of_slot (lies : book.Lies widget rect) (inSlot : book.slot? widget = some slot)
    (notLast : slot ≤ book.bookmarks.size) :
    book.frameEnd - 2 - (slot + 1) * settings.tabWidth.val ≤ rect.left.val := by
  cases widget with
  | home =>
    cases inSlot
    obtain ⟨left, top, isHome, atLeft, -⟩ := laidOut.anchored.home
    have atHome : rect.left = left := by
      rw [lies, isHome]
      rfl
    rw [atHome, atLeft, frameEnd, Int.add_mul]
    omega
  | tab index =>
    cases inSlot
    obtain ⟨-, left, -, -⟩ := tab_extent laidOut positive few lies
    have isNext : ((index + 1 : Nat) : Int) + 1 = index + 2 := by omega
    rw [left, isNext]
  | addBookmark =>
    cases inSlot
    omega
  | slider => cases inSlot

/-- A part in a later slot ends before a part in an earlier slot starts. -/
theorem not_covers_of_slot_lt (lies : book.Lies widget rect) (alsoLies : book.Lies other otherRect)
    (inSlot : book.slot? widget = some slot) (alsoInSlot : book.slot? other = some otherSlot)
    (before : slot < otherSlot) (covers : rect.Covers x y) : ¬ otherRect.Covers x y := by
  obtain ⟨later, rfl⟩ := Nat.exists_eq_succ_of_ne_zero (Nat.ne_zero_of_lt before)
  have last := slot_le laidOut positive few alsoLies alsoInSlot
  have start := le_start_of_slot laidOut positive few lies inSlot (by omega)
  have finish := end_le_of_slot laidOut positive few alsoLies alsoInSlot
  have wide := positive.tabWidth
  have moved : (slot + 1 : Int) * settings.tabWidth.val ≤ (later + 1) * settings.tabWidth.val :=
    Int.mul_le_mul_of_nonneg_right (by omega) (by omega)
  unfold Rect.Covers at covers ⊢
  omega

private theorem eq_of_covers (lies : book.Lies widget rect) (alsoLies : book.Lies other otherRect)
    (inStrip : widget ≠ .slider) (alsoInStrip : other ≠ .slider) (covers : rect.Covers x y)
    (alsoCovers : otherRect.Covers x y) : widget = other := by
  obtain ⟨slot, inSlot⟩ := exists_slot inStrip
  obtain ⟨otherSlot, alsoInSlot⟩ := exists_slot alsoInStrip
  rcases Nat.lt_trichotomy slot otherSlot with before | same | after
  · exact absurd alsoCovers
      (not_covers_of_slot_lt laidOut positive few lies alsoLies inSlot alsoInSlot before covers)
  · subst same
    exact eq_of_slot laidOut positive few lies alsoLies inSlot alsoInSlot
  · exact absurd covers
      (not_covers_of_slot_lt laidOut positive few alsoLies lies alsoInSlot inSlot after alsoCovers)

private theorem eq_home_of_covers_rail (lies : book.Lies widget rect) (inStrip : widget ≠ .slider)
    (covers : rect.Covers x y) (onRail : book.viewport.rail.Covers x y) :
    widget = .home ∧
      settings.borderThickness.val < settings.fullTabHeight.val - settings.tabHeight.val := by
  have border := positive.borderThickness
  have high := positive.fullTabHeight
  have below := laidOut.anchored.railTop
  unfold Rect.Covers at covers onRail
  cases widget with
  | home =>
    obtain ⟨left, top, isHome, -, atTop⟩ := laidOut.anchored.home
    rw [lies, isHome, Rect.val_height_ofSize] at covers
    have sameTop : (Rect.ofSize left top settings.tabWidth settings.fullTabHeight).top = top := rfl
    rw [sameTop] at covers
    exact ⟨rfl, by omega⟩
  | tab index =>
    obtain ⟨-, -, -, onFrame⟩ := tab_extent laidOut positive few lies
    omega
  | addBookmark =>
    obtain ⟨-, -, top, height⟩ := Viewport.corner_of_addButton? laidOut.anchored few lies
    omega
  | slider => exact absurd rfl inStrip

variable {column row : Px} {order : List Nat}

private theorem tabContains?_isSome (formed : (book.tabRect? index).isSome) :
    (book.tabContains? column row index).isSome := by
  obtain ⟨answer, isAnswer⟩ := Option.isSome_iff_exists.mp formed
  unfold tabContains?
  rw [isAnswer]
  cases answer with
  | none => rfl
  | some rect =>
    obtain ⟨-, -, width, onFrame⟩ := tab_extent laidOut positive few isAnswer
    have wide := positive.tabWidth
    have lies : book.Lies (.tab index) rect := isAnswer
    have finish := end_le_of_slot laidOut positive few lies rfl
    have moved : 0 ≤ (index + 1 : Int) * settings.tabWidth.val :=
      Int.mul_nonneg (by omega) (by omega)
    have low := rect.left.lower_le
    have high := laidOut.anchored.rightInRange.2
    refine Rect.contains?_isSome ⟨?_, ?_⟩ ?_
    · omega
    · unfold frameEnd at finish
      omega
    · rw [onFrame]
      exact book.viewport.outer.top.inRange_val

private theorem eq_of_tabContains? {first second : Nat}
    (contains : book.tabContains? column row first = some true)
    (alsoContains : book.tabContains? column row second = some true) : first = second := by
  obtain ⟨rect, lies, covers⟩ := exists_of_tabContains? contains
  obtain ⟨otherRect, alsoLies, alsoCovers⟩ := exists_of_tabContains? alsoContains
  exact Widget.tab.inj
    (eq_of_covers laidOut positive few lies alsoLies nofun nofun covers alsoCovers)

/-- A search answers with the one tab under the point, in whatever order it asks the tabs. -/
theorem searchTabs?_eq_some_iff (formed : ∀ index ∈ order, (book.tabRect? index).isSome) :
    book.searchTabs? column row order = some (some index) ↔
      index ∈ order ∧ book.tabContains? column row index = some true := by
  apply findM?_eq_some_iff
  · intro index member
    exact tabContains?_isSome laidOut positive few (formed index member)
  · intro first _ second _ contains alsoContains
    exact eq_of_tabContains? laidOut positive few contains alsoContains

end Strip

/-- The parts on top of the frame do not cover each other and keep off the rail. However a book was
used, as long as pixel numbers count its tabs, a point lies in one at most of the tabs, the home button
and the add button; no point of the rail lies in a tab or in the add button, nor in the home button
unless that is higher than a tab by more than the border. So the tab that is hit is the one that is
found when the tabs are asked in any other order. -/
theorem Run.widgets_apart
    (opened : openAt settings source font screenWidth screenHeight = .ok start)
    (run : Run start steps book) (few : book.bookmarks.size < 2147483648) :
    (∀ widget other rect otherRect x y, widget ≠ .slider → other ≠ .slider →
        book.Lies widget rect → book.Lies other otherRect → rect.Covers x y →
        otherRect.Covers x y → widget = other) ∧
      (∀ widget rect x y, widget ≠ .slider → book.Lies widget rect → rect.Covers x y →
        book.viewport.rail.Covers x y →
          widget = .home ∧
            settings.borderThickness.val < settings.fullTabHeight.val - settings.tabHeight.val) ∧
      ((∀ index < book.bookmarks.size, (book.tabRect? index).isSome) →
        ∀ x y order index, order.Perm (List.range book.bookmarks.size) →
          (book.hit? x y = some (some (.tab index)) ↔
            book.searchTabs? x y order = some (some index))) := by
  have laidOut := run.laidOut opened
  have positive := Settings.positive_of_check (exists_of_openAt opened).1
  refine ⟨?_, ?_, ?_⟩
  · intro widget other rect otherRect x y inStrip alsoInStrip lies alsoLies
    exact eq_of_covers laidOut positive few lies alsoLies inStrip alsoInStrip
  · intro widget rect x y inStrip lies
    exact eq_home_of_covers_rail laidOut positive few lies inStrip
  · intro formed x y order index reordered
    have inOrder : ∀ index ∈ List.range book.bookmarks.size, (book.tabRect? index).isSome :=
      fun index member => formed index (List.mem_range.mp member)
    rw [hit?_eq_tab_iff, tabUnder?_eq_searchTabs? (run.sound opened),
      searchTabs?_eq_some_iff laidOut positive few inOrder,
      searchTabs?_eq_some_iff laidOut positive few
        fun index member => inOrder index (reordered.mem_iff.mp member),
      reordered.mem_iff]

def twoTabs : List Action := [.addBookmark "/a.md", .addBookmark "/b.md", .setPage "/b.md"]

/-- With a thin border and high tabs, the home button reaches down to the rail. -/
theorem Run.widgets_apart_twoTabs :
    ∃ start steps book rect,
      openAt { borderThickness := 4, fullTabHeight := 48 } (fun _ => none) Font.standard 800 600 =
        .ok start ∧
      start.replay? twoTabs = some (steps, book) ∧ book.bookmarks.size < 2147483648 ∧
      book.Lies (.tab 1) rect ∧ rect.Covers 630 30 ∧
      (∀ widget other, widget ≠ .slider → book.Lies widget other → other.Covers 630 30 →
        widget = .tab 1) ∧
      book.viewport.homeButton.Covers 690 90 ∧ book.viewport.rail.Covers 690 90 ∧
      (∀ widget other, widget ≠ .slider → book.Lies widget other → other.Covers 690 90 →
        widget = .home) ∧
      book.hit? 630 30 = some (some (.tab 1)) ∧
      book.searchTabs? 630 30 [1, 0] = some (some 1) := by
  have seen :
      ((openAt { borderThickness := 4, fullTabHeight := 48 } (fun _ => none) Font.standard 800
        600).toOption.bind fun start => (start.replay? twoTabs).map fun ran =>
          (ran.2.bookmarks.size, decide (ran.2.hit? 630 30 = some (some (.tab 1))),
            [ran.2.tabRect? 0, ran.2.tabRect? 1, some ran.2.viewport.homeButton,
              some ran.2.viewport.rail])) =
        some (2, true, [some (some (.ofSize 650 51 24 24)), some (some (.ofSize 626 27 24 48)),
          some (some (.ofSize 676 51 24 48)), some (some (.ofSize 684 79 12 442))]) := by
    decide +kernel
  obtain ⟨start, steps, book, opened, replayed, run, -, result⟩ := exists_run_of_view seen
  simp only [Prod.mk.injEq, List.cons.injEq, Option.some.injEq, decide_eq_true_eq,
    and_true] at result
  obtain ⟨size, hit, first, second, home, rail⟩ := result
  have few : book.bookmarks.size < 2147483648 := by omega
  obtain ⟨apart, offRail, inAnyOrder⟩ := Run.widgets_apart opened run few
  have onTab : (Rect.ofSize 626 27 24 48).Covers 630 30 := by decide
  have onHome : book.viewport.homeButton.Covers 690 90 := by
    rw [home]
    decide
  have onRail : book.viewport.rail.Covers 690 90 := by
    rw [rail]
    decide
  refine ⟨start, steps, book, _, opened, replayed, few, second, onTab, ?_, onHome, onRail, ?_, hit,
    ?_⟩
  · intro widget other inStrip lies covers
    exact apart widget (.tab 1) other _ 630 30 inStrip nofun lies second covers onTab
  · intro widget other inStrip lies covers
    exact (offRail widget other 690 90 inStrip lies covers onRail).1
  · have formed : ∀ index < book.bookmarks.size, (book.tabRect? index).isSome := by
      intro index inStrip
      rw [size] at inStrip
      match index, inStrip with
      | 0, _ => rw [first]; rfl
      | 1, _ => rw [second]; rfl
    refine (inAnyOrder formed 630 30 [1, 0] 1 ?_).mp hit
    rw [size]
    decide

end Book

end Handbook
