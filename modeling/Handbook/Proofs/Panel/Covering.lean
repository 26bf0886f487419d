import Handbook.Proofs.Ninths
import Handbook.Proofs.Panel.Tooltip
import Handbook.Proofs.Rect
import Handbook.Proofs.Sheet.Sampling
import Handbook.Proofs.Tiling.Covering

namespace Handbook

/-- The patches have pixels. Each pixel of the box lies in the cell of one of them, and no other
pixel does. -/
structure Box.PaintedBy (box : Box) (patches : List Patch) : Prop where
  nonempty : ∀ patch ∈ patches, patch.cell.isEmpty = false
  once : ∀ x y, patches.countP (fun patch => decide (patch.cell.Covers x y)) =
    if box.Covers x y then 1 else 0

namespace Box.PaintedBy

variable {box : Box} {boxes : List Box} {patches : List Patch} {lists : List (List Patch)}

private theorem covers_of_mem (painted : box.PaintedBy patches) {patch : Patch}
    (member : patch ∈ patches)
    {x y : Int} (covers : patch.cell.Covers x y) : box.Covers x y := by
  by_contra outside
  have none := painted.once x y
  rw [if_neg outside, List.countP_eq_zero] at none
  exact none patch member (decide_eq_true covers)

private theorem countP_flatten (painted : List.Forall₂ Box.PaintedBy boxes lists) (x y : Int) :
    lists.flatten.countP (fun patch => decide (patch.cell.Covers x y)) =
      boxes.countP (fun box => decide (box.Covers x y)) := by
  induction painted with
  | nil => rfl
  | @cons box patches boxes lists painted _ ih =>
    rw [List.flatten_cons, List.countP_append, ih, painted.once, List.countP_cons, Nat.add_comm]
    simp only [decide_eq_true_eq]

theorem flatten (partition : box.Partition boxes)
    (painted : List.Forall₂ Box.PaintedBy boxes lists) : box.PaintedBy lists.flatten where
  nonempty patch member := by
    obtain ⟨patches, inLists, inPatches⟩ := List.mem_flatten.mp member
    obtain ⟨part, -, paintedPart⟩ := exists_of_mem_answers painted inLists
    exact paintedPart.nonempty patch inPatches
  once x y := (countP_flatten painted x y).trans (partition.countP x y)

/-- What paints a rectangle on the pixel range becomes quads without leaving the range. -/
theorem exists_quads {rect : Rect} (painted : rect.box.PaintedBy patches) (size : SheetSize)
    (right : rect.right?.isSome) (bottom : rect.bottom?.isSome) :
    ∃ quads, Patch.quads? size patches = some quads :=
  Patch.exists_quads size painted.nonempty (fun _ member _ _ => painted.covers_of_mem member) right
    bottom

end Box.PaintedBy

/-- The patches share out the pixels of the rectangle, and on a sheet of any size they are quads. -/
structure Rect.DrawnBy (rect : Rect) (patches : List Patch) : Prop where
  painted : rect.box.PaintedBy patches
  drawn : ∀ size, ∃ quads, Patch.quads? size patches = some quads

namespace Patch

variable {dest : Rect} {sprite : Sprite} (spriteRight : sprite.right?.isSome)
  (spriteBottom : sprite.bottom?.isSome)
include spriteRight spriteBottom

/-- Stretching paints a rectangle with one patch, or with none where it has no pixel. -/
theorem exists_stretch? (z : Binary32) :
    ∃ patches, stretch? dest sprite z = some patches ∧ dest.box.PaintedBy patches := by
  by_cases empty : dest.isEmpty = true
  · refine ⟨[], if_pos empty, List.forall_mem_nil _, fun x y => ?_⟩
    exact (if_neg (Rect.isEmpty_iff.mp empty x y)).symm
  · obtain ⟨uRight, isRight⟩ := Option.isSome_iff_exists.mp spriteRight
    obtain ⟨vBottom, isBottom⟩ := Option.isSome_iff_exists.mp spriteBottom
    refine ⟨[⟨dest, z, sprite.left, sprite.top, uRight, vBottom⟩], ?_, ?_, fun x y => ?_⟩
    · rw [stretch?, if_neg empty, isRight, isBottom]
      rfl
    · exact List.forall_mem_singleton.mpr (Bool.eq_false_of_not_eq_true empty)
    · rw [List.countP_singleton]
      simp only [decide_eq_true_eq]
      rfl

private theorem exists_tiling? (right : dest.right?.isSome) (bottom : dest.bottom?.isSome)
    (z : Binary32)
    (phase : Px × Px) :
    ∃ patches, tiling? dest sprite z phase = some patches ∧ dest.box.PaintedBy patches := by
  obtain ⟨columns, rows, lists, formed, grid⟩ :=
    exists_grid right bottom spriteRight spriteBottom z phase
  have tiles := grid.tiles
  refine ⟨lists.flatten, formed, tiles.nonempty, fun x y => ?_⟩
  by_cases inside : dest.Covers x y
  · exact (tiles.once x y inside).trans (if_pos inside).symm
  · refine Eq.trans (List.countP_eq_zero.mpr ?_) (if_neg inside).symm
    intro patch member covers
    exact inside (tiles.inside patch member x y (of_decide_eq_true covers))

end Patch

/-- A border of this width fits on both sides of the rectangle, across and down. -/
structure Rect.RoomFor (rect : Rect) (border : Px) : Prop where
  natural : 0 ≤ border.val
  across : 2 * border.val ≤ rect.width.val
  down : 2 * border.val ≤ rect.height.val

/-- The border of the panel fits, and the far edges of the panel are pixel numbers. -/
structure Panel.Roomy (panel : Panel) : Prop extends panel.outer.RoomFor panel.corner where
  right : panel.outer.right?.isSome
  bottom : panel.outer.bottom?.isSome

/-- The art of a panel lies on the part of the sheet whose columns and rows are pixel numbers. -/
structure PanelArt.OnRange (art : PanelArt) : Prop where
  borderRight : art.border.outer.right?.isSome
  borderBottom : art.border.outer.bottom?.isSome
  fillRight : art.background.right?.isSome
  fillBottom : art.background.bottom?.isSome

theorem Rect.exists_ofCorners? {box : Box} {left top right bottom : Px}
    (near : left.val = box.left ∧ top.val = box.top)
    (far : right.val = box.right ∧ bottom.val = box.bottom)
    (across : 0 ≤ box.right - box.left ∧ box.right - box.left ≤ 2147483647)
    (down : 0 ≤ box.bottom - box.top ∧ box.bottom - box.top ≤ 2147483647) :
    ∃ rect, ofCorners? left top right bottom = some rect ∧ rect.box = box := by
  obtain ⟨width, isWidth, valueWidth⟩ :=
    Px.exists_fit? (right.val - left.val) ⟨by omega, by omega⟩
  obtain ⟨height, isHeight, valueHeight⟩ :=
    Px.exists_fit? (bottom.val - top.val) ⟨by omega, by omega⟩
  refine ⟨ofSize left top width height, by rw [ofCorners?, isWidth, isHeight]; rfl, ?_⟩
  obtain ⟨boxLeft, boxTop, boxRight, boxBottom⟩ := box
  simp only [Rect.box, ofSize, Px.val_max, Px.val_zero, Box.mk.injEq] at *
  omega

namespace Panel

variable {panel : Panel} {art : PanelArt} {patches : List Patch}

/-- The cuts of a panel: the inner edges of its border. -/
def grid (panel : Panel) (roomy : panel.Roomy) : NineGrid where
  across := {
    start := panel.outer.left.val
    nearEnd := panel.outer.left.val + panel.corner.val
    farStart := panel.outer.left.val + panel.outer.width.val - panel.corner.val
    stop := panel.outer.left.val + panel.outer.width.val
    near_le := Int.le_add_of_nonneg_right roomy.natural
    middle_le := by have := roomy.across; omega
    far_le := Int.sub_le_self _ roomy.natural }
  down := {
    start := panel.outer.top.val
    nearEnd := panel.outer.top.val + panel.corner.val
    farStart := panel.outer.top.val + panel.outer.height.val - panel.corner.val
    stop := panel.outer.top.val + panel.outer.height.val
    near_le := Int.le_add_of_nonneg_right roomy.natural
    middle_le := by have := roomy.down; omega
    far_le := Int.sub_le_self _ roomy.natural }

def pieceRect? (panel : Panel) : Piece → Option Rect
  | .middle => panel.outer.inset? panel.corner
  | .corner corner => panel.cornerRect? corner
  | .edge edge => panel.edgeRect? edge

/-- The inner edges of a border along one axis are pixel numbers. -/
theorem exists_cuts {start length border : Px} (natural : 0 ≤ border.val)
    (room : 2 * border.val ≤ length.val) (far : Px.InRange (start.val + length.val)) :
    ∃ near stop farStart, Px.fit? (start.val + border.val) = some near ∧
      Px.fit? (start.val + length.val) = some stop ∧
      Px.fit? (stop.val - border.val) = some farStart ∧
      near.val = start.val + border.val ∧ stop.val = start.val + length.val ∧
      farStart.val = start.val + length.val - border.val := by
  have ⟨_, _⟩ := start.inRange_val
  have ⟨_, _⟩ := far
  obtain ⟨near, isNear, nearAt⟩ := Px.exists_fit? (start.val + border.val) ⟨by omega, by omega⟩
  obtain ⟨stop, isStop, stopAt⟩ := Px.exists_fit? _ far
  obtain ⟨farStart, isFarStart, farAt⟩ :=
    Px.exists_fit? (stop.val - border.val) ⟨by omega, by omega⟩
  exact ⟨near, stop, farStart, isNear, isStop, isFarStart, nearAt, stopAt, by omega⟩

private theorem exists_edges (roomy : panel.Roomy) :
    (∃ near far right, panel.nearColumn? = some near ∧ panel.farColumn? = some far ∧
      panel.outer.right? = some right ∧ near.val = (panel.grid roomy).across.nearEnd ∧
      far.val = (panel.grid roomy).across.farStart ∧ right.val = (panel.grid roomy).across.stop) ∧
    ∃ near far bottom, panel.nearRow? = some near ∧ panel.farRow? = some far ∧
      panel.outer.bottom? = some bottom ∧ near.val = (panel.grid roomy).down.nearEnd ∧
      far.val = (panel.grid roomy).down.farStart ∧ bottom.val = (panel.grid roomy).down.stop := by
  constructor
  · obtain ⟨near, right, far, isNear, isRight, isFar, nearAt, rightAt, farAt⟩ :=
      exists_cuts roomy.natural roomy.across (Px.fit?_isSome_iff.mp roomy.right)
    refine ⟨near, far, right, isNear, ?_, isRight, nearAt, farAt, rightAt⟩
    exact Option.bind_eq_some_iff.mpr ⟨right, isRight, isFar⟩
  · obtain ⟨near, bottom, far, isNear, isBottom, isFar, nearAt, bottomAt, farAt⟩ :=
      exists_cuts roomy.natural roomy.down (Px.fit?_isSome_iff.mp roomy.bottom)
    refine ⟨near, far, bottom, isNear, ?_, isBottom, nearAt, farAt, bottomAt⟩
    exact Option.bind_eq_some_iff.mpr ⟨bottom, isBottom, isFar⟩

private theorem exists_cornerRect? (roomy : panel.Roomy) (corner : Corner) :
    ∃ rect, panel.cornerRect? corner = some rect ∧
      rect.box = (panel.grid roomy).box (.corner corner) := by
  obtain ⟨⟨_, farColumn, _, _, isFarColumn, _, _, farColumnAt, _⟩,
    _, farRow, _, _, isFarRow, _, _, farRowAt, _⟩ := exists_edges roomy
  have natural := roomy.natural
  simp only [grid] at farColumnAt farRowAt
  cases corner <;>
    refine ⟨_, by
      simp only [cornerRect?, isFarColumn, isFarRow, bind, pure, Option.bind_some]
      rfl, ?_⟩ <;>
    simp only [Rect.box, Rect.ofSize, Px.val_max, Px.val_zero, NineGrid.box, grid, Piece.place,
      Cuts.lower, Cuts.upper, Box.mk.injEq, true_and] <;>
    omega

private theorem exists_edgeRect? (roomy : panel.Roomy) (edge : Edge) :
    ∃ rect, panel.edgeRect? edge = some rect ∧
      rect.box = (panel.grid roomy).box (.edge edge) := by
  obtain ⟨⟨nearColumn, farColumn, right, isNearColumn, isFarColumn, isRight, nearColumnAt,
    farColumnAt, rightAt⟩, nearRow, farRow, bottom, isNearRow, isFarRow, isBottom, nearRowAt,
    farRowAt, bottomAt⟩ := exists_edges roomy
  have ⟨_, _⟩ := panel.outer.width.inRange_val
  have ⟨_, _⟩ := panel.outer.height.inRange_val
  have natural := roomy.natural
  have across := roomy.across
  have down := roomy.down
  simp only [grid] at nearColumnAt farColumnAt rightAt nearRowAt farRowAt bottomAt
  cases edge <;>
    simp only [edgeRect?, isNearColumn, isNearRow, isFarColumn, isFarRow, isRight, isBottom, bind,
      Option.bind_some] <;>
    apply Rect.exists_ofCorners? <;>
    simp only [NineGrid.box, grid, Piece.place, Cuts.lower, Cuts.upper, true_and, and_true] <;>
    omega

private theorem exists_middleRect? (roomy : panel.Roomy) :
    ∃ rect, panel.outer.inset? panel.corner = some rect ∧
      rect.box = (panel.grid roomy).box .middle := by
  obtain ⟨⟨natural, across, down⟩, right, bottom⟩ := roomy
  have ⟨_, _⟩ := panel.outer.left.inRange_val
  have ⟨_, _⟩ := panel.outer.top.inRange_val
  have ⟨_, _⟩ := panel.outer.width.inRange_val
  have ⟨_, _⟩ := panel.outer.height.inRange_val
  have ⟨_, _⟩ := Px.fit?_isSome_iff.mp right
  have ⟨_, _⟩ := Px.fit?_isSome_iff.mp bottom
  have fits : (panel.outer.inset? panel.corner).isSome :=
    Rect.isSome_inset?.mpr ⟨⟨by omega, by omega⟩, ⟨by omega, by omega⟩, ⟨by omega, by omega⟩,
      ⟨by omega, by omega⟩, ⟨by omega, by omega⟩⟩
  obtain ⟨inner, isInner⟩ := Option.isSome_iff_exists.mp fits
  obtain ⟨left, top, width, height⟩ := Rect.extent_of_inset? isInner
  refine ⟨inner, isInner, ?_⟩
  simp only [Rect.box, NineGrid.box, grid, Piece.place, Cuts.lower, Cuts.upper, Box.mk.injEq]
  omega

/-- Every piece of a panel is formed, and it lies between the cuts. -/
theorem exists_pieceRect? (roomy : panel.Roomy) (piece : Piece) :
    ∃ rect, panel.pieceRect? piece = some rect ∧ rect.box = (panel.grid roomy).box piece := by
  cases piece with
  | middle => exact exists_middleRect? roomy
  | corner corner => exact exists_cornerRect? roomy corner
  | edge edge => exact exists_edgeRect? roomy edge

/-- The patches of a piece: the fill in the middle and a sprite of the border art around it. -/
def piecePatches? (panel : Panel) (art : PanelArt) : Piece → Option (List Patch)
  | .middle => panel.fill? art
  | .corner corner => panel.cornerPatch? art corner
  | .edge edge => panel.edgePatch? art edge

private theorem patches?_eq (panel : Panel) (art : PanelArt) :
    panel.patches? art = (Piece.all.mapM (panel.piecePatches? art)).map List.flatten := by
  have corners : panel.piecePatches? art ∘ .corner = panel.cornerPatch? art := rfl
  have edges : panel.piecePatches? art ∘ .edge = panel.edgePatch? art := rfl
  simp only [patches?, border?, Piece.all, List.mapM_append, List.mapM_cons, List.mapM_nil,
    List.mapM_map, corners, edges, piecePatches?]
  cases panel.fill? art <;> cases Corner.all.mapM (panel.cornerPatch? art) <;>
    cases Edge.all.mapM (panel.edgePatch? art) <;> simp

/-- A piece ends within the panel, so its far edges are pixel numbers like those of the panel. -/
theorem far_of_box (roomy : panel.Roomy) {piece : Piece} {rect : Rect}
    (isBox : rect.box = (panel.grid roomy).box piece) :
    rect.right?.isSome ∧ rect.bottom?.isSome := by
  have ⟨_, _⟩ := rect.left.inRange_val
  have ⟨_, _⟩ := rect.top.inRange_val
  have ⟨_, _⟩ := Px.fit?_isSome_iff.mp roomy.right
  have ⟨_, _⟩ := Px.fit?_isSome_iff.mp roomy.bottom
  have wide := rect.width_nonneg
  have high := rect.height_nonneg
  have farColumn := (panel.grid roomy).across.upper_le_stop piece.place.1
  have farRow := (panel.grid roomy).down.upper_le_stop piece.place.2
  obtain ⟨-, -, right, bottom⟩ := Box.mk.inj isBox
  rw [← right] at farColumn
  rw [← bottom] at farRow
  simp only [grid] at farColumn farRow
  exact ⟨Px.fit?_isSome_iff.mpr ⟨by omega, by omega⟩, Px.fit?_isSome_iff.mpr ⟨by omega, by omega⟩⟩

/-- The fill is painted over its rectangle, whether it is stretched or repeated. -/
theorem exists_fill? {rect : Rect} (isFill : panel.fillRect? = some rect) (onRange : art.OnRange)
    (right : rect.right?.isSome) (bottom : rect.bottom?.isSome) :
    ∃ patches, panel.fill? art = some patches ∧ rect.box.PaintedBy patches := by
  obtain ⟨border, background, fill⟩ := art
  rw [fill?, isFill]
  cases fill with
  | stretched => exact Patch.exists_stretch? onRange.fillRight onRange.fillBottom panel.zFill
  | repeated phase =>
    exact Patch.exists_tiling? onRange.fillRight onRange.fillBottom right bottom panel.zFill phase

private theorem exists_piecePatches? (roomy : panel.Roomy) (framed : panel.inset = panel.corner)
    (onRange : art.OnRange) (piece : Piece) :
    ∃ patches, panel.piecePatches? art piece = some patches ∧
      ((panel.grid roomy).box piece).PaintedBy patches := by
  obtain ⟨rect, isRect, isBox⟩ := exists_pieceRect? roomy piece
  rw [← isBox]
  obtain ⟨sprite, isSprite, spriteBox⟩ :=
    NineSlice.exists_piece? onRange.borderRight onRange.borderBottom piece
  obtain ⟨spriteRight, spriteBottom⟩ :=
    (NineSlice.partOf_of_box spriteBox).far_isSome onRange.borderRight onRange.borderBottom
  have border : ∃ patches, Patch.stretch? rect sprite panel.zBorder = some patches ∧
      rect.box.PaintedBy patches :=
    Patch.exists_stretch? spriteRight spriteBottom panel.zBorder
  obtain ⟨stretched, isStretched, painted⟩ := border
  cases piece with
  | middle =>
    have isFill : panel.fillRect? = some rect := by
      rw [fillRect?, framed]
      exact isRect
    obtain ⟨right, bottom⟩ := far_of_box roomy isBox
    exact exists_fill? isFill onRange right bottom
  | corner corner =>
    refine ⟨stretched, ?_, painted⟩
    rw [pieceRect?] at isRect
    rw [NineSlice.piece?] at isSprite
    rw [piecePatches?, cornerPatch?, isRect, isSprite]
    exact isStretched
  | edge edge =>
    refine ⟨stretched, ?_, painted⟩
    rw [pieceRect?] at isRect
    rw [NineSlice.piece?] at isSprite
    rw [piecePatches?, edgePatch?, isRect, isSprite]
    exact isStretched

/-- A panel with room for its corners is painted without leaving the pixel range. -/
theorem exists_patches? (roomy : panel.Roomy) (framed : panel.inset = panel.corner)
    (onRange : art.OnRange) :
    ∃ patches, panel.patches? art = some patches ∧ panel.outer.box.PaintedBy patches := by
  obtain ⟨lists, formed, painted⟩ := exists_mapM_eq_some fun piece (_ : piece ∈ Piece.all) =>
    exists_piecePatches? roomy framed onRange piece
  refine ⟨lists.flatten, by rw [patches?_eq, formed, Option.map_some], ?_⟩
  have partition : panel.outer.box.Partition (Piece.all.map (panel.grid roomy).box) :=
    (panel.grid roomy).partition
  exact Box.PaintedBy.flatten partition (List.forall₂_map_left_iff.mpr painted)

/-- A panel is painted only where its far edges are pixel numbers: its last corner asks for both. -/
theorem far_of_patches? (formed : panel.patches? art = some patches) :
    panel.outer.right?.isSome ∧ panel.outer.bottom?.isSome := by
  rw [patches?_eq] at formed
  obtain ⟨lists, formed, -⟩ := Option.map_eq_some_iff.mp formed
  obtain ⟨patches, -, painted⟩ := exists_answer_of_mem (forall₂_of_mapM_eq_some formed)
    (show Piece.corner .bottomRight ∈ Piece.all by decide)
  obtain ⟨rect, isRect, -⟩ := Option.bind_eq_some_iff.mp painted
  obtain ⟨farColumn, isFarColumn, isRect⟩ := Option.bind_eq_some_iff.mp isRect
  obtain ⟨farRow, isFarRow, -⟩ := Option.bind_eq_some_iff.mp isRect
  obtain ⟨right, isRight, -⟩ := Option.bind_eq_some_iff.mp isFarColumn
  obtain ⟨bottom, isBottom, -⟩ := Option.bind_eq_some_iff.mp isFarRow
  exact ⟨Option.isSome_of_eq_some isRight, Option.isSome_of_eq_some isBottom⟩

/-- Whatever patches a panel with room for its corners is given, they share out its pixels. -/
theorem drawnBy_of_patches? (room : panel.outer.RoomFor panel.corner)
    (framed : panel.inset = panel.corner) (onRange : art.OnRange)
    (formed : panel.patches? art = some patches) :
    panel.outer.DrawnBy patches := by
  obtain ⟨right, bottom⟩ := far_of_patches? formed
  obtain ⟨known, isKnown, painted⟩ :=
    exists_patches? ⟨room, right, bottom⟩ framed onRange
  cases isKnown.symm.trans formed
  exact ⟨painted, fun size => painted.exists_quads size right bottom⟩

end Panel

namespace Artwork

private theorem far_of_holds {sprite : Sprite} (holds : extent.Holds sprite) :
    sprite.right?.isSome ∧ sprite.bottom?.isSome := by
  obtain ⟨left, top, right, bottom⟩ := holds
  have wide := sprite.width_pos
  have high := sprite.height_pos
  have sheetWidth : extent.width.toNat = 240 := rfl
  have sheetHeight : extent.height.toNat = 128 := rfl
  exact ⟨Px.fit?_isSome_iff.mpr ⟨by omega, by omega⟩, Px.fit?_isSome_iff.mpr ⟨by omega, by omega⟩⟩

private theorem onRange_of_holds {art : PanelArt} (border : extent.Holds art.border.outer)
    (background : extent.Holds art.background) : art.OnRange := by
  obtain ⟨borderRight, borderBottom⟩ := far_of_holds border
  obtain ⟨fillRight, fillBottom⟩ := far_of_holds background
  exact ⟨borderRight, borderBottom, fillRight, fillBottom⟩

private theorem onRange_of_buttonArt? {state : ButtonState} {phase : Px × Px} {art : PanelArt}
    (formed : buttonArt? state phase = some art) : art.OnRange := by
  obtain ⟨border, background, isArt, holdsBorder, holdsBackground⟩ := exists_buttonArt? state phase
  cases isArt.symm.trans formed
  exact onRange_of_holds holdsBorder holdsBackground

variable {rect : Rect} {z : Binary32} {state : ButtonState} {phase : Px × Px} {border : Px}
  (room : rect.RoomFor border)
include room

theorem isSome_button?_iff :
    (button? rect z state phase border).isSome ↔ rect.right?.isSome ∧ rect.bottom?.isSome := by
  constructor
  · intro formed
    obtain ⟨patches, formed⟩ := Option.isSome_iff_exists.mp formed
    obtain ⟨art, -, formed⟩ := Option.bind_eq_some_iff.mp formed
    exact Panel.far_of_patches? formed
  · rintro ⟨right, bottom⟩
    obtain ⟨slice, background, isArt, -⟩ := exists_buttonArt? state phase
    have roomy : Panel.Roomy ⟨rect, border, border, z, z⟩ := ⟨room, right, bottom⟩
    obtain ⟨patches, formed, -⟩ :=
      Panel.exists_patches? roomy rfl (onRange_of_buttonArt? isArt)
    rw [button?, isArt]
    exact Option.isSome_of_eq_some formed

private theorem drawnBy_of_button? {patches : List Patch}
    (formed : button? rect z state phase border = some patches) : rect.DrawnBy patches := by
  obtain ⟨art, isArt, formed⟩ := Option.bind_eq_some_iff.mp formed
  exact Panel.drawnBy_of_patches? room rfl (onRange_of_buttonArt? isArt) formed

end Artwork

namespace Tooltip

private theorem drawnBy_patches {text : String} {x y screenWidth : Px} {font : Font}
    {tooltip : Tooltip}
    (wide : ∀ width, font.width? text = some width → 0 ≤ width.val)
    (high : 0 ≤ font.lineHeight.val)
    (formed : Tooltip.of? text x y screenWidth font = some tooltip) :
    tooltip.outer.DrawnBy tooltip.patches := by
  obtain ⟨textWidth, isWidth, placed, painted, -⟩ := exists_of_of? formed
  have natural := wide textWidth isWidth
  obtain ⟨⟨-, -, outerWidth, outerHeight⟩, -⟩ := extent_of_bounds? placed
  have room : tooltip.outer.RoomFor padding := by
    have positive : padding.val = 4 := rfl
    constructor <;> omega
  have onRange : Artwork.tooltipArt.OnRange := Artwork.onRange_of_holds (by decide) (by decide)
  exact Panel.drawnBy_of_patches? room rfl onRange painted

end Tooltip

namespace Panel

end Panel

end Handbook
