import Handbook.Proofs.Book.Derived
import Handbook.Proofs.Book.Layers
import Handbook.Proofs.Rect

namespace Handbook

namespace FlowLine

/-- The row of the screen that the line starts in when so many rows are scrolled away. -/
def row (line : FlowLine) (visible : Rect) (scroll : Px) : Int :=
  visible.top.val + line.y.val - scroll.val

/-- Some row of the line is a row of a column that is not empty. -/
def InRows (line : FlowLine) (visible : Rect) (scroll : Px) : Prop :=
  0 < line.height.val ∧ visible.isEmpty = false ∧
    line.row visible scroll < visible.top.val + visible.height.val ∧
    visible.top.val < line.row visible scroll + line.height.val

/-- The line has text and shows in the column. -/
def Shows (line : FlowLine) (visible : Rect) (scroll : Px) : Prop :=
  line.text ≠ "" ∧ line.InRows visible scroll

instance (visible : Rect) (scroll : Px) : DecidablePred fun line : FlowLine =>
    line.Shows visible scroll := fun _ => inferInstanceAs (Decidable (_ ∧ _ ∧ _ ∧ _ ∧ _))

/-- The label is the text of the line from its place on. -/
structure DrawnAs (visible : Rect) (scroll : Px) (line : FlowLine) (label : Label) : Prop where
  text : label.text = line.text
  x : label.x = visible.left
  y : label.y.val = line.row visible scroll
  scale : label.scale = line.scale
  color : label.color = Book.pageColor
  plain : label.shadow = false

variable {line : FlowLine} {visible : Rect} {scroll : Px}

/-- A line shows where a pixel of the column lies in one of its rows. -/
theorem inRows_iff_exists_pixel : line.InRows visible scroll ↔
    ∃ x y, visible.Covers x y ∧ line.row visible scroll ≤ y ∧
      y < line.row visible scroll + line.height.val := by
  have wide := visible.width_nonneg
  have high := visible.height_nonneg
  simp only [InRows, Rect.isEmpty, Bool.or_eq_false_iff, beq_eq_false_iff_ne, Rect.Covers]
  constructor
  · intro shows
    exact ⟨visible.left.val, max visible.top.val (line.row visible scroll), by omega⟩
  · rintro ⟨x, y, inside⟩
    omega

end FlowLine

namespace Book

variable {book next start : Book} {x y scroll : Px} {visible : Rect} {line : FlowLine}
  {lines : List FlowLine} {list : DrawList} {steps : List Step}

/-- The box of a line, which is never narrower than one pixel, meets the column where the line
shows. -/
theorem lineLabel?_cases {answer : Option Label}
    (told : lineLabel? visible scroll line = some answer) :
    (line.InRows visible scroll ∧
      ∃ label, answer = some label ∧ line.DrawnAs visible scroll label) ∨
      (¬ line.InRows visible scroll ∧ answer = none) := by
  obtain ⟨top, isRow, meets, isMeets, rfl⟩ := exists_of_lineLabel? told
  change top.val = line.row visible scroll at isRow
  have shows : meets = true ↔ line.InRows visible scroll := by
    rw [Rect.intersects_iff_exists_pixel isMeets, FlowLine.inRows_iff_exists_pixel, ← isRow]
    simp only [Rect.Covers, Rect.ofSize, Px.val_max, Px.val_zero]
    have one : (1 : Px).val = 1 := rfl
    constructor
    · rintro ⟨column, row, inBox, inColumn⟩
      exact ⟨column, row, inColumn, by omega⟩
    · rintro ⟨column, row, inColumn, inLine⟩
      exact ⟨visible.left.val, row, by omega, by omega⟩
  cases meets with
  | true => exact .inl ⟨shows.mp rfl, _, rfl, rfl, rfl, isRow, rfl, rfl, rfl⟩
  | false => exact .inr ⟨fun inRows => Bool.false_ne_true (shows.mpr inRows), rfl⟩

/-- Of the lines of a page those are drawn that show, in their order. -/
theorem drawn_of_pageLabels? {labels : List Label} (areLabels : book.pageLabels? = some labels) :
    List.Forall₂ (FlowLine.DrawnAs book.viewport.visible book.active.scroll)
      (book.active.flow.lines.filter fun line =>
        decide (line.Shows book.viewport.visible book.active.scroll))
      (labels.filter Label.shows) := by
  obtain ⟨answers, asked, result⟩ := Option.bind_eq_some_iff.mp areLabels
  cases result
  rw [List.filter_filterMap]
  apply forall₂_filter_filterMap
  refine (forall₂_of_mapM_eq_some asked).imp fun line answer told => ?_
  rcases lineLabel?_cases told with ⟨inRows, label, rfl, drawnAs⟩ | ⟨hidden, rfl⟩
  · by_cases hasText : line.text = ""
    · exact .inr ⟨fun shows => shows.1 hasText, by simp [Label.shows, drawnAs.text, hasText]⟩
    · exact .inl ⟨⟨hasText, inRows⟩, label, by simp [Label.shows, drawnAs.text, hasText], drawnAs⟩
  · exact .inr ⟨fun shows => hidden shows.2, rfl⟩

/-- The texts of a scene at the depth of a layer are those of the layer. -/
theorem ScenePieces.labels_at_depth (pieces : book.ScenePieces x y) (layer : Layer) :
    ((pieces.scene.flatMap Part.labels).filter fun label => decide (label.z = layer.depth)) =
      (pieces.on layer).flatMap Part.labels := by
  have each (other : Layer) : (((pieces.on other).flatMap Part.labels).filter fun label =>
      decide (label.z = layer.depth)) =
        if other = layer then (pieces.on layer).flatMap Part.labels else [] := by
    have depth : ∀ label ∈ (pieces.on other).flatMap Part.labels, label.z = other.depth := by
      intro label member
      obtain ⟨part, inLayer, inPart⟩ := List.mem_flatMap.mp member
      exact (pieces.on_layer other part inLayer).z_of_mem_labels inPart
    by_cases same : other = layer
    · subst same
      rw [if_pos rfl]
      exact List.filter_eq_self.mpr fun label member => decide_eq_true (depth label member)
    · rw [if_neg same]
      refine List.filter_eq_nil_iff.mpr fun label member isDepth => same ?_
      exact Layer.eq_of_depth ((depth label member).symm.trans (of_decide_eq_true isDepth))
  rw [pieces.scene_eq_flatMap, List.flatMap_assoc, List.filter_flatMap]
  simp only [each]
  cases layer <;> simp [Layer.all]

theorem ScenePieces.labels_at_text (pieces : book.ScenePieces x y) :
    ((pieces.scene.flatMap Part.labels).filter fun label => decide (label.z = Layer.text.depth)) =
      pieces.labels := by
  rw [pieces.labels_at_depth]
  simp [on, List.flatMap_map, Part.labels]

theorem labels_of_render? (drawn : book.render? x y = some (list, next)) :
    List.Forall₂ (FlowLine.DrawnAs next.viewport.visible next.active.scroll)
      (next.active.flow.lines.filter fun line =>
        decide (line.Shows next.viewport.visible next.active.scroll))
      (list.labels.filter fun label => decide (label.z = Layer.text.depth)) := by
  obtain ⟨refreshed, scene, isScene, painted⟩ := exists_of_render? drawn
  obtain ⟨pieces, rfl⟩ := exists_of_scene? isScene
  rw [DrawList.labels_ofScene? painted, List.filter_comm, pieces.labels_at_text]
  exact drawn_of_pageLabels? pieces.areLabels

/-- The page text in a frame of a book, however it was used, is that of the lines of its open page
that show in the column, line by line. -/
theorem Run.shown_lines_drawn {settings : Settings} {source : String → Option Document}
    {font : Font} {screenWidth screenHeight : Px}
    (opened : openAt settings source font screenWidth screenHeight = .ok start)
    (run : Run start steps book) (drawn : book.render? x y = some (list, next)) :
    next = book ∧
      List.Forall₂ (FlowLine.DrawnAs book.viewport.visible book.active.scroll)
        (book.active.flow.lines.filter fun line =>
          decide (line.Shows book.viewport.visible book.active.scroll))
        (list.labels.filter fun label => decide (label.z = Layer.text.depth)) := by
  have labels := labels_of_render? drawn
  obtain ⟨refreshed, -⟩ := exists_of_render? drawn
  cases (run.settled opened).refresh?.symm.trans refreshed
  exact ⟨rfl, labels⟩

/-- Every path has a page of two headers, the second of them without words, and regular text. -/
def leaf (_ : String) : Option Document := some (Document.ofMarkup "# A\n\nb\n\n#\n\nc\n\nd")

/-- A page of which the first and the last line are hidden, one line has no text and one shows only
in part, all of them without width. -/
theorem Run.shown_lines_drawn_halfway :
    ∃ start steps book list next,
      openAt {} leaf (Font.cells 0 12) 800 120 = .ok start ∧
      start.replay? [.setProgress (Binary32.ofRatio 17 25)] = some (steps, book) ∧
      book.render? 0 0 = some (list, next) ∧
      book.active.flow.lines.map (fun line => (line.text, line.width)) =
        [("A", 0), ("b", 0), ("", 0), ("c", 0), ("d", 0)] ∧
      (list.labels.filter fun label => decide (label.z = Layer.text.depth)).map
        (fun label => (label.text, label.y)) = [("b", 27), ("c", 75)] ∧
      next = book ∧
      List.Forall₂ (FlowLine.DrawnAs book.viewport.visible book.active.scroll)
        (book.active.flow.lines.filter fun line =>
          decide (line.Shows book.viewport.visible book.active.scroll))
        (list.labels.filter fun label => decide (label.z = Layer.text.depth)) := by
  have seen :
      ((openAt {} leaf (Font.cells 0 12) 800 120).toOption.bind fun start =>
        (start.replay? [.setProgress (Binary32.ofRatio 17 25)]).map fun ran =>
          (ran.2.active.flow.lines.map fun line => (line.text, line.width),
            (ran.2.render? 0 0).map fun drawn =>
              (drawn.1.labels.filter fun label => decide (label.z = Layer.text.depth)).map
                fun label => (label.text, label.y))) =
        some ([("A", 0), ("b", 0), ("", 0), ("c", 0), ("d", 0)], some [("b", 27), ("c", 75)]) := by
    decide +kernel
  obtain ⟨start, steps, book, opened, replayed, run, -, result⟩ := exists_run_of_view seen
  obtain ⟨lines, shown⟩ := Prod.mk.inj result
  obtain ⟨⟨list, next⟩, drawn, labels⟩ := Option.map_eq_some_iff.mp shown
  exact ⟨start, steps, book, list, next, opened, replayed, drawn, lines, labels,
    Run.shown_lines_drawn opened run drawn⟩

end Book

end Handbook
