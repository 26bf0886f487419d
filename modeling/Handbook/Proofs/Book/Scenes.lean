import Mathlib.Tactic.SplitIfs
import Handbook.Book.Render
import Handbook.Proofs.Answers
import Handbook.Proofs.Sheet.Sampling

namespace Handbook

/-- The layers from back to front. -/
def Layer.all : List Layer := [.paper, .text, .frame, .buttons, .tooltip]

/-- Everything of the part has the depth of the layer, and its sprites are of the artwork. -/
def Part.On (layer : Layer) : Part → Prop
  | .sprites _ patches => ∀ patch ∈ patches, patch.OnLayer layer
  | .fill _ z _ => z = layer.depth
  | .label text => text.z = layer.depth

namespace Book

variable {book : Book} {x y : Px} {shown parts : List Part}

private theorem exists_of_tabTooltip? {tab : Tab} (drawn : book.tabTooltip? x y tab = some parts) :
    ∃ text below tooltip mark,
      Tooltip.of? text x below book.viewport.screenWidth book.font = some tooltip ∧
      parts = [.sprites noTint tooltip.patches, .label tooltip.label,
        .fill linkColor Layer.tooltip.depth mark] := by
  obtain ⟨below, -, drawn⟩ := Option.bind_eq_some_iff.mp drawn
  obtain ⟨tooltip, isTooltip, drawn⟩ := Option.bind_eq_some_iff.mp drawn
  dsimp only at drawn
  split at drawn
  · cases drawn
    exact ⟨_, below, tooltip, [], isTooltip, rfl⟩
  · obtain ⟨mark, -, drawn⟩ := Option.bind_eq_some_iff.mp drawn
    cases drawn
    exact ⟨_, below, tooltip, mark, isTooltip, rfl⟩

private theorem exists_of_hoverParts? {hovered : Option Widget}
    (drawn : book.hoverParts? x y hovered = some parts) :
    parts = [] ∨ ∃ tab, book.tabTooltip? x y tab = some parts := by
  unfold hoverParts? at drawn
  split at drawn
  · split at drawn
    · exact .inr ⟨_, drawn⟩
    · cases drawn
      exact .inl rfl
  · cases drawn
    exact .inl rfl

/-- What a line is drawn as: its text in the row where the scrolling leaves it, or nothing. -/
theorem exists_of_lineLabel? {visible : Rect} {scroll : Px} {line : FlowLine}
    {answer : Option Label} (told : lineLabel? visible scroll line = some answer) :
    ∃ row : Px, row.val = visible.top.val + line.y.val - scroll.val ∧
      ∃ meets, (Rect.ofSize visible.left row (max line.width 1) line.height).intersects? visible =
          some meets ∧
        answer = if meets then some ⟨line.text, visible.left, row, Layer.text.depth, pageColor,
          false, line.scale⟩ else none := by
  obtain ⟨unscrolled, isUnscrolled, told⟩ := Option.bind_eq_some_iff.mp told
  obtain ⟨row, isRow, told⟩ := Option.bind_eq_some_iff.mp told
  obtain ⟨meets, isMeets, told⟩ := Option.bind_eq_some_iff.mp told
  rw [Px.fit?_eq_some_iff] at isUnscrolled isRow
  refine ⟨row, by omega, meets, isMeets, ?_⟩
  cases meets <;> cases told <;> rfl

theorem exists_of_mem_pageLabels? {labels : List Label} {label : Label}
    (areLabels : book.pageLabels? = some labels) (member : label ∈ labels) :
    ∃ line ∈ book.active.flow.lines,
      lineLabel? book.viewport.visible book.active.scroll line = some (some label) := by
  obtain ⟨answers, asked, result⟩ := Option.bind_eq_some_iff.mp areLabels
  cases result
  obtain ⟨answer, inAnswers, rfl⟩ := List.mem_filterMap.mp member
  exact exists_of_mem_answers (forall₂_of_mapM_eq_some asked) inAnswers

structure ScenePieces (book : Book) (x y : Px) where
  hovered : Option Widget
  paper : List Patch
  border : List Patch
  labels : List Label
  separator : List Patch
  thumb : List Patch
  home : List Patch
  add : List Patch
  tabs : List Part
  title : Label
  tooltip : List Part
  wireframe : List Rect
  under : book.hit? x y = some hovered
  isFrame : Artwork.bookFrame? book.viewport.outer book.settings = some (paper, border)
  areLabels : book.pageLabels? = some labels
  isSeparator : Artwork.separatorBar? book.viewport.separator = some separator
  isThumb : book.thumb? hovered = some thumb
  isHome : book.home? hovered = some home
  isAdd : book.add? hovered = some add
  areTabs : book.tabs? hovered 0 book.bookmarks.tabs = some tabs
  isTitle : book.title? = some title
  isTooltip : book.hoverParts? x y hovered = some tooltip
  isWireframe : book.wireframe? = some wireframe

/-- The scene of some pieces: the paper, the page text, the frame and the buttons on it, the tabs, the
title and the tooltip layer. -/
def ScenePieces.scene (pieces : book.ScenePieces x y) : List Part :=
  [.sprites noTint pieces.paper] ++ pieces.labels.map .label ++
    [.sprites noTint pieces.border, .sprites noTint pieces.separator, .sprites noTint pieces.thumb,
      .sprites noTint pieces.home, .sprites noTint pieces.add] ++ pieces.tabs ++
    [.label pieces.title] ++ pieces.tooltip ++
    [.fill wireframeColor Layer.tooltip.depth pieces.wireframe]

theorem exists_of_scene? (drawn : book.scene? x y = some shown) :
    ∃ pieces : book.ScenePieces x y, shown = pieces.scene := by
  obtain ⟨hovered, under, drawn⟩ := Option.bind_eq_some_iff.mp drawn
  obtain ⟨⟨paper, border⟩, isFrame, drawn⟩ := Option.bind_eq_some_iff.mp drawn
  obtain ⟨labels, areLabels, drawn⟩ := Option.bind_eq_some_iff.mp drawn
  obtain ⟨separator, isSeparator, drawn⟩ := Option.bind_eq_some_iff.mp drawn
  obtain ⟨thumb, isThumb, drawn⟩ := Option.bind_eq_some_iff.mp drawn
  obtain ⟨home, isHome, drawn⟩ := Option.bind_eq_some_iff.mp drawn
  obtain ⟨add, isAdd, drawn⟩ := Option.bind_eq_some_iff.mp drawn
  obtain ⟨tabs, areTabs, drawn⟩ := Option.bind_eq_some_iff.mp drawn
  obtain ⟨title, isTitle, drawn⟩ := Option.bind_eq_some_iff.mp drawn
  obtain ⟨tooltip, isTooltip, drawn⟩ := Option.bind_eq_some_iff.mp drawn
  obtain ⟨wireframe, isWireframe, drawn⟩ := Option.bind_eq_some_iff.mp drawn
  exact ⟨⟨hovered, paper, border, labels, separator, thumb, home, add, tabs, title, tooltip,
    wireframe, under, isFrame, areLabels, isSeparator, isThumb, isHome, isAdd, areTabs, isTitle,
    isTooltip, isWireframe⟩, (Option.some.inj drawn).symm⟩

variable {hovered : Option Widget} {patches : List Patch}

private theorem onLayer_thumb? (drawn : book.thumb? hovered = some patches) :
    ∀ patch ∈ patches, patch.OnLayer .buttons := by
  obtain ⟨rect, -, drawn⟩ := Option.bind_eq_some_iff.mp drawn
  exact Artwork.onLayer_button? drawn

private theorem onLayer_home? (drawn : book.home? hovered = some patches) :
    ∀ patch ∈ patches, patch.OnLayer .buttons := by
  intro patch member
  unfold home? at drawn
  split_ifs at drawn with visible
  · obtain ⟨button, isButton, drawn⟩ := Option.bind_eq_some_iff.mp drawn
    obtain ⟨rect, -, drawn⟩ := Option.bind_eq_some_iff.mp drawn
    obtain ⟨icon, isIcon, drawn⟩ := Option.bind_eq_some_iff.mp drawn
    cases drawn
    rcases List.mem_append.mp member with inButton | inIcon
    · exact Artwork.onLayer_button? isButton patch inButton
    · exact Artwork.onLayer_icon? (Artwork.extent_holds Artwork.homeIcon (by decide)) isIcon patch
        inIcon
  · cases drawn
    cases member

private theorem onLayer_add? (drawn : book.add? hovered = some patches) :
    ∀ patch ∈ patches, patch.OnLayer .buttons := by
  intro patch member
  unfold add? at drawn
  split_ifs at drawn with visible
  · obtain ⟨rect, -, drawn⟩ := Option.bind_eq_some_iff.mp drawn
    obtain ⟨across, isAcross, drawn⟩ := Option.bind_eq_some_iff.mp drawn
    obtain ⟨icon, isIcon, drawn⟩ := Option.bind_eq_some_iff.mp drawn
    obtain ⟨column, sprite, isColumn, isSprite, holds⟩ :=
      Artwork.exists_addIcon (ButtonState.ofFlags book.addEnabled (hovered = some .addBookmark))
    cases isAcross.symm.trans isColumn
    cases isIcon.symm.trans isSprite
    exact Artwork.onLayer_icon? holds drawn patch member
  · cases drawn
    cases member

private theorem on_of_tabs? {index : Nat} {tabs : List Tab}
    (drawn : book.tabs? hovered index tabs = some parts) : ∀ part ∈ parts, part.On .buttons := by
  intro part member
  induction tabs generalizing index parts with
  | nil =>
    cases drawn
    cases member
  | cons tab rest ih =>
    obtain ⟨rect, -, drawn⟩ := Option.bind_eq_some_iff.mp drawn
    obtain ⟨tile, isTile, drawn⟩ := Option.bind_eq_some_iff.mp drawn
    obtain ⟨later, isLater, drawn⟩ := Option.bind_eq_some_iff.mp drawn
    cases drawn
    rcases List.mem_cons.mp member with rfl | inLater
    · exact Artwork.onLayer_button? isTile
    · exact ih isLater inLater

private theorem on_of_hoverParts? (drawn : book.hoverParts? x y hovered = some parts) :
    ∀ part ∈ parts, part.On .tooltip := by
  rcases exists_of_hoverParts? drawn with rfl | ⟨tab, drawn⟩
  · exact List.forall_mem_nil _
  · obtain ⟨text, below, tooltip, mark, isTooltip, rfl⟩ := exists_of_tabTooltip? drawn
    obtain ⟨box, label⟩ := Artwork.onLayer_tooltip isTooltip
    simp only [List.forall_mem_cons, List.not_mem_nil, false_implies, implies_true, and_true]
    exact ⟨box, label, rfl⟩

private theorem z_of_title? {title : Label} (formed : book.title? = some title) :
    title.z = Layer.buttons.depth := by
  obtain ⟨width, -, formed⟩ := Option.bind_eq_some_iff.mp formed
  obtain ⟨x, -, formed⟩ := Option.bind_eq_some_iff.mp formed
  obtain ⟨y, -, formed⟩ := Option.bind_eq_some_iff.mp formed
  cases formed
  rfl

private theorem z_of_lineLabel? {visible : Rect} {scroll : Px} {line : FlowLine} {label : Label}
    (shown : lineLabel? visible scroll line = some (some label)) :
    label.z = Layer.text.depth := by
  obtain ⟨_, -, meets, -, isLabel⟩ := exists_of_lineLabel? shown
  cases meets with
  | false => cases isLabel
  | true =>
    cases isLabel
    rfl

private theorem z_of_pageLabels? {labels : List Label} (formed : book.pageLabels? = some labels) :
    ∀ label ∈ labels, label.z = Layer.text.depth := by
  intro label member
  obtain ⟨line, -, shown⟩ := exists_of_mem_pageLabels? formed member
  exact z_of_lineLabel? shown

def ScenePieces.on (pieces : book.ScenePieces x y) : Layer → List Part
  | .paper => [.sprites noTint pieces.paper]
  | .text => pieces.labels.map .label
  | .frame => [.sprites noTint pieces.border, .sprites noTint pieces.separator]
  | .buttons =>
    [.sprites noTint pieces.thumb, .sprites noTint pieces.home, .sprites noTint pieces.add] ++
      pieces.tabs ++ [.label pieces.title]
  | .tooltip => pieces.tooltip ++ [.fill wireframeColor Layer.tooltip.depth pieces.wireframe]

theorem ScenePieces.scene_eq_flatMap (pieces : book.ScenePieces x y) :
    pieces.scene = Layer.all.flatMap pieces.on := by
  simp [scene, Layer.all, on]

theorem ScenePieces.on_layer (pieces : book.ScenePieces x y) (layer : Layer) :
    ∀ part ∈ pieces.on layer, part.On layer := by
  obtain ⟨paper, border⟩ := Artwork.onLayer_bookFrame? pieces.isFrame
  cases layer with
  | paper => exact List.forall_mem_singleton.mpr paper
  | text => exact List.forall_mem_map.mpr (z_of_pageLabels? pieces.areLabels)
  | frame =>
    simp only [on, List.forall_mem_cons, List.not_mem_nil, false_implies, implies_true, and_true]
    exact ⟨border, Artwork.onLayer_separatorBar? pieces.isSeparator⟩
  | buttons =>
    simp only [on, List.forall_mem_append, List.forall_mem_cons, List.not_mem_nil, false_implies,
      implies_true, and_true]
    exact ⟨⟨⟨onLayer_thumb? pieces.isThumb, onLayer_home? pieces.isHome,
      onLayer_add? pieces.isAdd⟩, on_of_tabs? pieces.areTabs⟩, z_of_title? pieces.isTitle⟩
  | tooltip =>
    simp only [on, List.forall_mem_append, List.forall_mem_cons, List.not_mem_nil, false_implies,
      implies_true, and_true]
    exact ⟨on_of_hoverParts? pieces.isTooltip, rfl⟩

end Book

end Handbook
