import Handbook.Proofs.Book.ShownLines
import Handbook.Proofs.Book.Viewport
import Handbook.Proofs.Text.Headers
import Handbook.Proofs.Text.Wrapping

/-!
Where page text is drawn. A line is drawn whole as soon as one row of it shows in the column, so it
can stick out of the column by all its rows but one. The border of the frame is painted over what
sticks out; it hides regular text and small headers, and large headers are higher than it.
-/

namespace Handbook

namespace Book

variable {settings : Settings} {source : String → Option Document} {font : Font}
  {screenWidth screenHeight x y scroll : Px} {start book next : Book} {steps : List Step}
  {list : DrawList} {hovered : Option Widget} {visible : Rect} {line : FlowLine} {label : Label}

/-- What a scene draws at the depth of page text are lines of the open page. -/
theorem mem_pageLabels_of_scene? {scene : List Part} (drawn : book.scene? x y = some scene)
    (member : label ∈ scene.flatMap Part.labels) (atText : label.z = Layer.text.depth) :
    ∃ labels, book.pageLabels? = some labels ∧ label ∈ labels := by
  obtain ⟨pieces, rfl⟩ := exists_of_scene? drawn
  refine ⟨pieces.labels, pieces.areLabels, ?_⟩
  rw [← pieces.labels_at_text]
  exact List.mem_filter.mpr ⟨member, decide_eq_true atText⟩

/-- A line that is drawn shows at least one of its rows in the column. -/
theorem rows_of_lineLabel? (shown : lineLabel? visible scroll line = some (some label)) :
    0 < visible.height.val ∧ label.y.val < visible.top.val + visible.height.val ∧
      visible.top.val < label.y.val + line.height.val := by
  rcases lineLabel?_cases shown with ⟨⟨-, occupied, rows⟩, drawn, isLabel, drawnAs⟩ | ⟨-, isNone⟩
  · cases isLabel
    have high := visible.height_nonneg
    rw [← drawnAs.y] at rows
    simp only [Rect.isEmpty, Bool.or_eq_false_iff, beq_eq_false_iff_ne] at occupied
    omega
  · cases isNone

/-- No line sticks out of the frame by more rows than it has beyond those of the border and one. -/
theorem rows_of_label (shown : lineLabel? book.viewport.visible scroll line = some (some label))
    (computed : Viewport.compute? screenWidth screenHeight settings = some book.viewport) :
    ∀ rows : Int, 0 ≤ rows → line.height.val ≤ settings.borderThickness.val + 1 + rows →
      book.viewport.outer.top.val ≤ label.y.val + rows ∧
        label.y.val + line.height.val ≤
          book.viewport.outer.top.val + book.viewport.outer.height.val + rows := by
  intro rows natural notHigher
  obtain ⟨positive, starts, ends⟩ := rows_of_lineLabel? shown
  obtain ⟨top, height⟩ := Viewport.rows_of_compute? computed
  omega

/-- How many rows the lines of a header can stick out of a border of sixteen pixels, in the shipped
cell font; regular text has no level. -/
def overhang : Option Nat → Nat
  | some level => 7 - 3 * (level - 1)
  | none => 0

/-- The lines of the shipped cell font fit a border of sixteen pixels and one row of the column but
for what overhangs. -/
theorem height_standard_le (level : Option Nat) :
    (Flow.scaled Font.standard.lineHeight (Flow.scaleOf level)).val ≤ 17 + overhang level := by
  have plain : (Flow.scaled Font.standard.lineHeight 1).val ≤ 17 := by decide
  cases level with
  | none => exact plain
  | some level =>
    by_cases deep : 5 ≤ level
    · rw [Flow.scaleOf, Flow.headerScale_of_le deep]
      omega
    · match level, deep with
      | 0, _ | 1, _ | 2, _ | 3, _ | 4, _ => decide
      | _ + 5, deep => exact absurd (Nat.le_add_left 5 _) deep

/-- With the shipped cell font and the default settings, however a book was used, every line of page
text that is drawn stays within the rows of the frame, but for the headers of the first three levels.
These can stick out above and below by seven, four and one row. -/
theorem Run.page_text_in_frame
    (opened : openAt {} source Font.standard screenWidth screenHeight = .ok start)
    (run : Run start steps book) (sameFont : ∀ step ∈ steps, step.font = Font.standard)
    (drawn : book.render? x y = some (list, next)) :
    ∀ label ∈ list.labels, label.z = Layer.text.depth →
      ∃ line ∈ next.active.flow.lines,
        lineLabel? next.viewport.visible next.active.scroll line = some (some label) ∧
        next.viewport.outer.top.val ≤ label.y.val + overhang line.level ∧
        label.y.val + line.height.val ≤
          next.viewport.outer.top.val + next.viewport.outer.height.val + overhang line.level := by
  intro label member atText
  obtain ⟨refreshed, scene, isScene, painted⟩ := exists_of_render? drawn
  have upToDate :=
    (run.upToDate (upToDate_of_openAt opened) sameFont).toArranged.refresh? refreshed
  rw [DrawList.labels_ofScene? painted] at member
  have inScene := (List.mem_filter.mp member).1
  obtain ⟨labels, areLabels, inPage⟩ := mem_pageLabels_of_scene? isScene inScene atText
  obtain ⟨line, inFlow, shown⟩ := exists_of_mem_pageLabels? areLabels inPage
  have height := Flow.height_of_ofParagraphs? upToDate.current.flow line inFlow
  have notHigher := height_standard_le line.level
  rw [← height] at notHigher
  exact ⟨line, inFlow, shown,
    rows_of_label shown upToDate.viewport (overhang line.level) (Int.natCast_nonneg _) notHigher⟩

def headed (_ : String) : Option Document := some (Document.ofMarkup "# A\n\nb\n\nc")

/-- Scrolls a page to 23 of 32 parts. On a low screen only the last row of its header then shows in
the column. -/
def scrolledDown : List Action := [.setProgress (Binary32.ofRatio 23 32)]

theorem Run.page_text_in_frame_scrolledDown :
    ∃ start steps book list next,
      openAt {} headed Font.standard 800 80 = .ok start ∧
      start.replay? scrolledDown = some (steps, book) ∧
      book.render? 0 0 = some (list, next) ∧
      list.labels.map (fun label => (label.text, label.y.val)) =
        [("A", 3), ("b", 33), ("c", 51), ("A", 14)] ∧
      ∀ label ∈ list.labels, label.z = Layer.text.depth →
        ∃ line ∈ next.active.flow.lines,
          lineLabel? next.viewport.visible next.active.scroll line = some (some label) ∧
          next.viewport.outer.top.val ≤ label.y.val + overhang line.level ∧
          label.y.val + line.height.val ≤
            next.viewport.outer.top.val + next.viewport.outer.height.val + overhang line.level := by
  have seen :
      ((openAt {} headed Font.standard 800 80).toOption.bind fun start =>
        (start.replay? scrolledDown).map fun ran => (ran.2.render? 0 0).map fun drawn =>
          drawn.1.labels.map fun label => (label.text, label.y.val)) =
        some (some [("A", 3), ("b", 33), ("c", 51), ("A", 14)]) := by
    decide +kernel
  obtain ⟨start, steps, book, opened, replayed, run, sameFont, result⟩ := exists_run_of_view seen
  obtain ⟨⟨list, next⟩, drawn, places⟩ := Option.map_eq_some_iff.mp result
  exact ⟨start, steps, book, list, next, opened, replayed, drawn, places,
    Run.page_text_in_frame opened run sameFont drawn⟩

/-- A header of the first level can be drawn from seven rows above the frame on, where no border is
painted over it. -/
theorem header_above_frame :
    ∃ start steps book list next,
      openAt {} headed Font.standard 800 80 = .ok start ∧
      start.replay? scrolledDown = some (steps, book) ∧
      book.render? 0 0 = some (list, next) ∧
      ∃ label ∈ list.labels, label.z = Layer.text.depth ∧
        ∃ line ∈ next.active.flow.lines,
          lineLabel? next.viewport.visible next.active.scroll line = some (some label) ∧
          line.level = some 1 ∧ label.y.val + 7 = next.viewport.outer.top.val := by
  have seen :
      ((openAt {} headed Font.standard 800 80).toOption.bind fun start =>
        (start.replay? scrolledDown).map fun ran => (ran.2.render? 0 0).map fun drawn =>
          drawn.1.labels.any fun label => decide (label.z = Layer.text.depth) &&
            drawn.2.active.flow.lines.any fun line => decide
              (lineLabel? drawn.2.viewport.visible drawn.2.active.scroll line =
                  some (some label) ∧
                line.level = some 1 ∧ label.y.val + 7 = drawn.2.viewport.outer.top.val)) =
        some (some true) := by
    decide +kernel
  obtain ⟨start, steps, book, opened, replayed, -, -, result⟩ := exists_run_of_view seen
  obtain ⟨⟨list, next⟩, drawn, found⟩ := Option.map_eq_some_iff.mp result
  obtain ⟨label, member, isLabel⟩ := List.any_eq_true.mp found
  obtain ⟨atText, onLine⟩ := Bool.and_eq_true_iff.mp isLabel
  obtain ⟨line, inFlow, isLine⟩ := List.any_eq_true.mp onLine
  exact ⟨start, steps, book, list, next, opened, replayed, drawn, label, member,
    of_decide_eq_true atText, line, inFlow, of_decide_eq_true isLine⟩

end Book

end Handbook
