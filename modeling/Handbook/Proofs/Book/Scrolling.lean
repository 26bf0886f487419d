import Handbook.Proofs.Binary32.Rounding
import Handbook.Proofs.Book.Pages
import Handbook.Proofs.Book.ShownLines
import Handbook.Proofs.Text.Stacking

namespace Handbook

namespace Page

variable {page next : Page} {font : Font} {visible : Rect} {viewHeight : Px}

/-- The lines stand within the height of the page, and the progress is one that a request sets. -/
structure Scrollable (page : Page) : Prop where
  inside : ∀ line ∈ page.flow.lines,
    0 ≤ line.y.val ∧ line.y.val + line.height.val ≤ page.flow.height.val
  progress : ∃ requested, page.progress = progressFor requested

private theorem scrollable_fresh (path : String) (document : Option Document) :
    (fresh path document).Scrollable := by
  have isStart : (fresh path document).progress = progressFor 0 := by
    rw [progress_fresh]
    decide
  have noLines : (fresh path document).flow.lines = [] := by
    cases document <;> rfl
  refine ⟨?_, 0, isStart⟩
  rw [noLines]
  exact List.forall_mem_nil _

/-- Setting the progress and the dye leaves the lines as they are. -/
theorem Scrollable.touch (scrollable : page.Scrollable) (move : Book.Move) :
    (move.touch page).Scrollable := by
  cases move with
  | scroll progress => exact { scrollable with progress := ⟨progress, rfl⟩ }
  | dye backwards => exact { scrollable with }
  | _ => exact scrollable

/-- The lines of a refreshed page are those that it had or those of its text. -/
theorem flow_of_refresh? (refreshed : page.refresh? font visible = some next) :
    next.flow = page.flow ∨
      Flow.ofParagraphs? font visible.width page.paragraphs = some next.flow := by
  obtain ⟨flowed, reflowed, updated⟩ := Option.bind_eq_some_iff.mp refreshed
  obtain ⟨range, -, result⟩ := Option.bind_eq_some_iff.mp updated
  cases result
  unfold reflow? at reflowed
  split at reflowed
  · cases reflowed
    exact .inl rfl
  · obtain ⟨flow, formed, result⟩ := Option.bind_eq_some_iff.mp reflowed
    cases result
    exact .inr formed

theorem Scrollable.refresh? (scrollable : page.Scrollable) (natural : 0 ≤ font.lineHeight.val)
    (refreshed : page.refresh? font visible = some next) : next.Scrollable := by
  have sameProgress : next.unflowed.progress = page.unflowed.progress := by
    rw [unflowed_refresh? refreshed]
  refine ⟨?_, sameProgress ▸ scrollable.progress⟩
  rcases flow_of_refresh? refreshed with kept | formed
  · rw [kept]
    exact scrollable.inside
  · obtain ⟨space, blocks, groups, -, -, -, -, readable⟩ := Flow.stacked_of_ofParagraphs? formed
    exact (readable natural).inside

private theorem scrollFor_zero (requested : Binary32) :
    scrollFor (progressFor requested) 0 = 0 := by
  unfold scrollFor progressFor
  split
  · decide
  · next number =>
    refine Binary32.round_clampUnit_mul_zero ?_
    rintro rfl
    exact number rfl

theorem Settled.exists_range (settled : page.Settled visible) :
    ∃ range, page.scrollRange? visible.height = some range ∧
      range.val = max (page.height.val - visible.height.val) 0 ∧
      page.scroll = scrollFor page.progress range := by
  obtain ⟨range, formed, result⟩ := Option.bind_eq_some_iff.mp settled.scroll
  obtain ⟨hidden, isHidden, isRange⟩ := Option.bind_eq_some_iff.mp formed
  refine ⟨range, formed, ?_, congrArg Page.scroll (Option.some.inj result).symm⟩
  rw [← Option.some.inj isRange, Px.val_max, Px.val_zero, Px.fit?_eq_some_iff.mp isHidden]

theorem Settled.scroll_eq_zero (settled : page.Settled visible) (scrollable : page.Scrollable)
    (fits : page.height.val ≤ visible.height.val) : page.scroll = 0 := by
  obtain ⟨range, -, isRange, isScroll⟩ := settled.exists_range
  obtain ⟨requested, isProgress⟩ := scrollable.progress
  have nothing : range = 0 := by
    apply Px.ext
    rw [isRange, Px.val_zero]
    omega
  rw [isScroll, isProgress, nothing, scrollFor_zero]

end Page

namespace FlowLine

variable {line : FlowLine} {visible : Rect}

/-- The label is the text of the line from its place on, on a page that is not scrolled, and every
row of the line is a row of the column. -/
structure DrawnWhole (visible : Rect) (line : FlowLine) (label : Label) : Prop
    extends DrawnAs visible 0 line label where
  starts : visible.top.val ≤ label.y.val
  ends : label.y.val + line.height.val ≤ visible.top.val + visible.height.val

/-- On a page that is not scrolled a line that lies in the column shows as soon as it has text and a
row. -/
theorem shows_iff_of_inside (occupied : visible.isEmpty = false) (starts : 0 ≤ line.y.val)
    (ends : line.y.val + line.height.val ≤ visible.height.val) :
    line.Shows visible 0 ↔ line.text ≠ "" ∧ 0 < line.height.val := by
  have zero : (0 : Px).val = 0 := rfl
  simp only [Shows, InRows, row, zero]
  constructor
  · rintro ⟨hasText, hasRow, -⟩
    exact ⟨hasText, hasRow⟩
  · rintro ⟨hasText, hasRow⟩
    exact ⟨hasText, hasRow, occupied, by omega, by omega⟩

theorem DrawnAs.whole {label : Label} (drawnAs : line.DrawnAs visible 0 label)
    (starts : 0 ≤ line.y.val) (ends : line.y.val + line.height.val ≤ visible.height.val) :
    line.DrawnWhole visible label := by
  have isRow : label.y.val = visible.top.val + line.y.val := by
    rw [drawnAs.y, row, Px.val_zero, Int.sub_zero]
  exact { drawnAs with starts := by omega, ends := by omega }

end FlowLine

namespace Book

variable {settings : Settings} {source : String → Option Document} {font : Font}
  {screenWidth screenHeight x y : Px} {start book next : Book} {steps : List Step}
  {list : DrawList}

/-- What a new page has, and what no touch and no refreshing under the fonts of a run takes from a
page, is had by every page of the book. -/
theorem Run.every {holds : Page → Prop} (run : Run start steps book) (every : start.Every holds)
    (fresh : ∀ path document, holds (Page.fresh path document))
    (touch : ∀ move : Move, ∀ page, holds page → holds (move.touch page))
    (refresh : ∀ step ∈ steps, ∀ page refreshed visible, holds page →
      page.refresh? step.font visible = some refreshed → holds refreshed) :
    book.Every holds := by
  induction run with
  | nil => exact every
  | @concat steps step run taken ih =>
    have earlier := ih fun other member => refresh other (List.mem_append_left _ member)
    have last := refresh step (List.mem_append_right _ (List.mem_singleton_self step))
    have before : step.book.Every holds := ⟨earlier.active, earlier.shelved⟩
    obtain ⟨move, -, made⟩ := taken.exists_move
    exact before.make? fresh (touch move) last made

theorem Run.scrollable (opened : openAt settings source font screenWidth screenHeight = .ok start)
    (run : Run start steps book) (natural : 0 ≤ font.lineHeight.val)
    (stepsNatural : ∀ step ∈ steps, 0 ≤ step.font.lineHeight.val) :
    book.Every Page.Scrollable := by
  obtain ⟨-, artwork, viewport, active, -, -, refreshed, isStart⟩ := exists_of_openAt opened
  -- Pages on the shelf count too: one of them may be opened again with the lines that it has.
  have begins : start.Every Page.Scrollable := by
    rw [isStart]
    exact ⟨(Page.scrollable_fresh _ _).refresh? natural refreshed, List.forall_mem_nil _⟩
  refine run.every begins Page.scrollable_fresh (fun move page known => known.touch move) ?_
  intro step member page refreshed visible known found
  exact known.refresh? (stepsNatural step member) found

/-- The slider works exactly while the settled page has something to scroll over. -/
theorem Settled.sliderEnabled_iff (settled : book.Settled) :
    ∃ range, book.active.scrollRange? book.viewport.visible.height = some range ∧
      (book.sliderEnabled = true ↔ 0 < range.val) := by
  obtain ⟨range, formed, isRange, -⟩ := Page.Settled.exists_range settled
  refine ⟨range, formed, ?_⟩
  rw [sliderEnabled, decide_eq_true_iff, isRange]
  omega

/-- A page that is not scrolled and fits the column is drawn whole. -/
theorem whole_of_render? (drawn : book.render? x y = some (list, next))
    (occupied : next.viewport.visible.isEmpty = false) (unscrolled : next.active.scroll = 0)
    (inside : ∀ line ∈ next.active.flow.lines,
      0 ≤ line.y.val ∧ line.y.val + line.height.val ≤ next.viewport.visible.height.val) :
    List.Forall₂ (FlowLine.DrawnWhole next.viewport.visible)
      (next.active.flow.lines.filter fun line => decide (line.text ≠ "" ∧ 0 < line.height.val))
      (list.labels.filter fun label => decide (label.z = Layer.text.depth)) := by
  have labels := labels_of_render? drawn
  rw [unscrolled] at labels
  have sameLines : (next.active.flow.lines.filter fun line =>
      decide (line.Shows next.viewport.visible 0)) =
      next.active.flow.lines.filter fun line =>
        decide (line.text ≠ "" ∧ 0 < line.height.val) := by
    refine List.filter_congr fun line member => decide_eq_decide.mpr ?_
    exact FlowLine.shows_iff_of_inside occupied (inside line member).1 (inside line member).2
  rw [sameLines] at labels
  refine ((List.forall₂_and_left _ _).mpr ⟨fun line member =>
    inside line (List.mem_of_mem_filter member), labels⟩).imp ?_
  rintro line label ⟨⟨starts, ends⟩, drawnAs⟩
  exact drawnAs.whole starts ends

/-- The slider of a book, however it was used, works exactly while the open page can scroll. While
it does not, the page stands at its top, and a frame shows each of its lines that has text and a
row, all of it in the column. -/
theorem Run.nothing_hidden
    (opened : openAt settings source font screenWidth screenHeight = .ok start)
    (run : Run start steps book) (natural : 0 ≤ font.lineHeight.val)
    (stepsNatural : ∀ step ∈ steps, 0 ≤ step.font.lineHeight.val) :
    (∃ range, book.active.scrollRange? book.viewport.visible.height = some range ∧
      (book.sliderEnabled = true ↔ 0 < range.val)) ∧
    (book.sliderEnabled = false → book.active.scroll = 0 ∧
      ∀ x y list next, book.viewport.visible.isEmpty = false →
        book.render? x y = some (list, next) → next = book ∧
          List.Forall₂ (FlowLine.DrawnWhole book.viewport.visible)
            (book.active.flow.lines.filter fun line =>
              decide (line.text ≠ "" ∧ 0 < line.height.val))
            (list.labels.filter fun label => decide (label.z = Layer.text.depth))) := by
  have settled := run.settled opened
  have scrollable := (run.scrollable opened natural stepsNatural).active
  refine ⟨settled.sliderEnabled_iff, fun disabled => ?_⟩
  have fits : book.active.height.val ≤ book.viewport.visible.height.val := by
    rw [sliderEnabled, decide_eq_false_iff_not] at disabled
    omega
  have unscrolled := Page.Settled.scroll_eq_zero settled scrollable fits
  refine ⟨unscrolled, fun x y list next occupied drawn => ?_⟩
  obtain ⟨refreshed, -⟩ := exists_of_render? drawn
  cases settled.refresh?.symm.trans refreshed
  refine ⟨rfl, whole_of_render? drawn occupied unscrolled fun line member => ?_⟩
  obtain ⟨starts, ends⟩ := scrollable.inside line member
  exact ⟨starts, Int.le_trans ends fits⟩

/-- A page that is scrolled to its end on a low screen stands at its top on a high one, where it
keeps its progress. -/
theorem Run.nothing_hidden_resized :
    ∃ start steps book list next,
      openAt {} leaf Font.standard 800 120 = .ok start ∧
      start.replay? [.setProgress 1, .resize 800 600] = some (steps, book) ∧
      steps.map (fun step => step.after.active.scroll) = [50, 0] ∧ book.active.progress = 1 ∧
      book.viewport.visible.isEmpty = false ∧ book.sliderEnabled = false ∧
      book.render? 0 0 = some (list, next) ∧
      (list.labels.filter fun label => decide (label.z = Layer.text.depth)).map
        (fun label => (label.text, label.y)) = [("A", 91), ("b", 121), ("c", 169), ("d", 187)] ∧
      0 ≤ Font.standard.lineHeight.val ∧ (∀ step ∈ steps, 0 ≤ step.font.lineHeight.val) ∧
      book.active.scroll = 0 ∧ next = book ∧
      List.Forall₂ (FlowLine.DrawnWhole book.viewport.visible)
        (book.active.flow.lines.filter fun line =>
          decide (line.text ≠ "" ∧ 0 < line.height.val))
        (list.labels.filter fun label => decide (label.z = Layer.text.depth)) := by
  have seen :
      ((openAt {} leaf Font.standard 800 120).toOption.bind fun start =>
        (start.replay? [.setProgress 1, .resize 800 600]).map fun ran =>
          ((ran.1.map fun step => step.after.active.scroll, ran.2.active.progress),
            (ran.2.viewport.visible.isEmpty, ran.2.sliderEnabled),
            (ran.2.render? 0 0).map fun drawn =>
              (drawn.1.labels.filter fun label => decide (label.z = Layer.text.depth)).map
                fun label => (label.text, label.y))) =
        some (([50, 0], 1), (false, false),
          some [("A", 91), ("b", 121), ("c", 169), ("d", 187)]) := by
    decide +kernel
  obtain ⟨start, steps, book, opened, replayed, run, sameFont, result⟩ := exists_run_of_view seen
  obtain ⟨before, after⟩ := Prod.mk.inj result
  obtain ⟨scrolls, progress⟩ := Prod.mk.inj before
  obtain ⟨column, shown⟩ := Prod.mk.inj after
  obtain ⟨occupied, disabled⟩ := Prod.mk.inj column
  obtain ⟨⟨list, next⟩, drawn, labels⟩ := Option.map_eq_some_iff.mp shown
  have natural : 0 ≤ Font.standard.lineHeight.val := by decide
  have stepsNatural : ∀ step ∈ steps, 0 ≤ step.font.lineHeight.val :=
    fun step member => (sameFont step member).symm ▸ natural
  obtain ⟨unscrolled, whole⟩ :=
    (Run.nothing_hidden opened run natural stepsNatural).2 disabled
  exact ⟨start, steps, book, list, next, opened, replayed, scrolls, progress, occupied, disabled,
    drawn, labels, natural, stepsNatural, unscrolled, whole 0 0 list next occupied drawn⟩

end Book

end Handbook
