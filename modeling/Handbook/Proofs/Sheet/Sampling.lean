import Mathlib.Tactic.SplitIfs
import Handbook.Panel.Chrome
import Handbook.Proofs.Sheet.NineSlice
import Handbook.Proofs.Tiling.Cutting

namespace Handbook

namespace Sprite

def PartOf (part whole : Sprite) : Prop :=
  whole.left.val ≤ part.left.val ∧
    part.left.val + part.width.val ≤ whole.left.val + whole.width.val ∧
    whole.top.val ≤ part.top.val ∧
    part.top.val + part.height.val ≤ whole.top.val + whole.height.val

theorem right?_eq_some_iff {sprite : Sprite} {right : Px} :
    sprite.right? = some right ↔ right.val = sprite.left.val + sprite.width.val :=
  Px.fit?_eq_some_iff

theorem bottom?_eq_some_iff {sprite : Sprite} {bottom : Px} :
    sprite.bottom? = some bottom ↔ bottom.val = sprite.top.val + sprite.height.val :=
  Px.fit?_eq_some_iff

theorem PartOf.far_isSome {part whole : Sprite} (isPart : part.PartOf whole)
    (right : whole.right?.isSome) (bottom : whole.bottom?.isSome) :
    part.right?.isSome ∧ part.bottom?.isSome := by
  obtain ⟨left, farColumn, top, farRow⟩ := isPart
  have ⟨_, _⟩ := whole.left.inRange_val
  have ⟨_, _⟩ := whole.top.inRange_val
  have ⟨_, _⟩ := Px.fit?_isSome_iff.mp right
  have ⟨_, _⟩ := Px.fit?_isSome_iff.mp bottom
  have wide := part.width_pos
  have high := part.height_pos
  exact ⟨Px.fit?_isSome_iff.mpr ⟨by omega, by omega⟩, Px.fit?_isSome_iff.mpr ⟨by omega, by omega⟩⟩

end Sprite

namespace NineSlice

variable {slice : NineSlice} {part : Sprite}

/-- What lies between the cuts of a nine-slice is a part of its sprite. -/
theorem partOf_of_box {piece : Piece} (isBox : part.box = slice.grid.box piece) :
    part.PartOf slice.outer := by
  obtain ⟨left, top, right, bottom⟩ := Box.mk.inj isBox
  have nearColumn := slice.grid.across.start_le_lower piece.place.1
  have farColumn := slice.grid.across.upper_le_stop piece.place.1
  have nearRow := slice.grid.down.start_le_lower piece.place.2
  have farRow := slice.grid.down.upper_le_stop piece.place.2
  simp only [grid] at nearColumn farColumn nearRow farRow left top right bottom
  unfold Sprite.PartOf
  omega

private theorem partOf_corner? {corner : Corner} (formed : slice.corner? corner = some part) :
    part.PartOf slice.outer := by
  rw [corner?_eq] at formed
  exact partOf_of_box (Box.box_of_sprite? formed)

private theorem partOf_edge? {edge : Edge} (formed : slice.edge? edge = some part) :
    part.PartOf slice.outer := by
  rw [edge?_eq] at formed
  exact partOf_of_box (Box.box_of_sprite? formed)

end NineSlice

namespace Patch

/-- The columns and rows that the patch samples are those of a sprite. -/
structure Within (sprite : Sprite) (patch : Patch) : Prop where
  left : sprite.left.val ≤ patch.uLeft.val
  across : patch.uLeft.val ≤ patch.uRight.val
  right : patch.uRight.val ≤ sprite.left.val + sprite.width.val
  top : sprite.top.val ≤ patch.vTop.val
  down : patch.vTop.val ≤ patch.vBottom.val
  bottom : patch.vBottom.val ≤ sprite.top.val + sprite.height.val

/-- The columns and rows that the patch samples are those of a sheet. -/
def OnSheet (size : SheetSize) (patch : Patch) : Prop :=
  (0 ≤ patch.uLeft.val ∧ patch.uLeft.val ≤ patch.uRight.val ∧
      patch.uRight.val ≤ size.width.toNat) ∧
    0 ≤ patch.vTop.val ∧ patch.vTop.val ≤ patch.vBottom.val ∧
      patch.vBottom.val ≤ size.height.toNat

instance (size : SheetSize) (patch : Patch) : Decidable (patch.OnSheet size) :=
  inferInstanceAs (Decidable ((_ ∧ _ ∧ _) ∧ _ ∧ _ ∧ _))

variable {size : SheetSize} {sprite whole : Sprite} {dest : Rect} {z : Binary32} {phase : Px × Px}
  {patch : Patch} {patches : List Patch}

theorem OnSheet.mono {small : SheetSize} (onSmall : patch.OnSheet small)
    (wider : small.width.toNat ≤ size.width.toNat)
    (higher : small.height.toNat ≤ size.height.toNat) : patch.OnSheet size := by
  unfold OnSheet at onSmall ⊢
  omega

theorem Within.onSheet (within : patch.Within sprite) (holds : size.Holds sprite) :
    patch.OnSheet size := by
  obtain ⟨left, top, right, bottom⟩ := holds
  obtain ⟨uLeft, across, uRight, vTop, down, vBottom⟩ := within
  unfold OnSheet
  omega

theorem Within.mono (within : patch.Within sprite) (part : sprite.PartOf whole) :
    patch.Within whole := by
  obtain ⟨left, right, top, bottom⟩ := part
  obtain ⟨uLeft, across, uRight, vTop, down, vBottom⟩ := within
  constructor <;> omega

/-- The patch has a depth and shows pixels of a sprite. -/
structure Drawn (sprite : Sprite) (z : Binary32) (patch : Patch) : Prop where
  depth : patch.z = z
  within : patch.Within sprite

theorem drawn_of_stretch? (formed : stretch? dest sprite z = some patches) :
    ∀ patch ∈ patches, patch.Drawn sprite z := by
  intro patch member
  unfold stretch? at formed
  split_ifs at formed with empty
  · cases formed
    cases member
  · obtain ⟨right, across, formed⟩ := Option.bind_eq_some_iff.mp formed
    obtain ⟨bottom, down, formed⟩ := Option.bind_eq_some_iff.mp formed
    rw [Sprite.right?_eq_some_iff] at across
    rw [Sprite.bottom?_eq_some_iff] at down
    have wide := sprite.width_pos
    have high := sprite.height_pos
    cases formed
    rw [List.mem_singleton.mp member]
    refine ⟨rfl, ?_⟩
    constructor <;> dsimp only <;> omega

private theorem drawn_of_cell? {row column : Span} {vTop : Px} {width height phaseX phaseY : Int}
    (across : column.OnAxis width sprite.width.val phaseX)
    (down : row.OnAxis height sprite.height.val phaseY)
    (sampled : vTop.val = sprite.top.val + row.source.val)
    (formed : cell? dest sprite z row vTop column = some patch) : patch.Drawn sprite z := by
  obtain ⟨uLeft, isLeft, formed⟩ := Option.bind_eq_some_iff.mp formed
  obtain ⟨left, -, formed⟩ := Option.bind_eq_some_iff.mp formed
  obtain ⟨top, -, formed⟩ := Option.bind_eq_some_iff.mp formed
  obtain ⟨uRight, isRight, formed⟩ := Option.bind_eq_some_iff.mp formed
  obtain ⟨vBottom, isBottom, formed⟩ := Option.bind_eq_some_iff.mp formed
  rw [Px.fit?_eq_some_iff] at isLeft isRight isBottom
  have columnStart := across.source_nonneg
  have columnWide := across.length_pos
  have columnEnd := across.source_le
  have rowStart := down.source_nonneg
  have rowHigh := down.length_pos
  have rowEnd := down.source_le
  cases formed
  refine ⟨rfl, ?_⟩
  constructor <;> dsimp only <;> omega

/-- Every patch of a tiling lies where a row and a column of spans meet. -/
theorem exists_cell_of_tiling? (formed : tiling? dest sprite z phase = some patches)
    (member : patch ∈ patches) :
    ∃ columns rows, Span.cut? dest.width sprite.width phase.1 = some columns ∧
      Span.cut? dest.height sprite.height phase.2 = some rows ∧
      ∃ row ∈ rows, ∃ column ∈ columns, ∃ vTop,
        Px.fit? (sprite.top.val + row.source.val) = some vTop ∧
        cell? dest sprite z row vTop column = some patch := by
  obtain ⟨columns, cutColumns, formed⟩ := Option.bind_eq_some_iff.mp formed
  obtain ⟨rows, cutRows, formed⟩ := Option.bind_eq_some_iff.mp formed
  obtain ⟨lists, found, flattened⟩ := Option.bind_eq_some_iff.mp formed
  cases flattened
  obtain ⟨list, inLists, inList⟩ := List.mem_flatten.mp member
  obtain ⟨row, inRows, asked⟩ := exists_of_mem_answers (forall₂_of_mapM_eq_some found) inLists
  obtain ⟨vTop, isTop, asked⟩ := Option.bind_eq_some_iff.mp asked
  obtain ⟨column, inColumns, isCell⟩ := exists_of_mem_answers (forall₂_of_mapM_eq_some asked) inList
  exact ⟨columns, rows, cutColumns, cutRows, row, inRows, column, inColumns, vTop, isTop, isCell⟩

private theorem drawn_of_tiling? (formed : tiling? dest sprite z phase = some patches) :
    ∀ patch ∈ patches, patch.Drawn sprite z := by
  intro patch member
  obtain ⟨columns, rows, cutColumns, cutRows, row, inRows, column, inColumns, vTop, isTop, isCell⟩ :=
    exists_cell_of_tiling? formed member
  have across := Span.onAxis_of_cut? dest.width_nonneg sprite.width_pos cutColumns
  have down := Span.onAxis_of_cut? dest.height_nonneg sprite.height_pos cutRows
  exact drawn_of_cell? (across column inColumns) (down row inRows) (Px.fit?_eq_some_iff.mp isTop)
    isCell

end Patch

namespace Panel

variable {panel : Panel} {art : PanelArt} {patches : List Patch}

private theorem drawn_of_fill? (formed : panel.fill? art = some patches) :
    ∀ patch ∈ patches, patch.Drawn art.background panel.zFill := by
  obtain ⟨rect, -, formed⟩ := Option.bind_eq_some_iff.mp formed
  cases fill : art.fill with
  | stretched =>
    rw [fill] at formed
    exact Patch.drawn_of_stretch? formed
  | repeated phase =>
    rw [fill] at formed
    exact Patch.drawn_of_tiling? formed

/-- Every patch of a border is a piece of the border art, stretched. -/
theorem exists_piece_of_border? {patch : Patch} (formed : panel.border? art = some patches)
    (member : patch ∈ patches) :
    ∃ rect piece stretched, piece.PartOf art.border.outer ∧
      Patch.stretch? rect piece panel.zBorder = some stretched ∧ patch ∈ stretched := by
  obtain ⟨corners, inCorners, formed⟩ := Option.bind_eq_some_iff.mp formed
  obtain ⟨edges, inEdges, formed⟩ := Option.bind_eq_some_iff.mp formed
  cases formed
  rcases List.mem_append.mp member with inCorner | inEdge
  · obtain ⟨list, inLists, inList⟩ := List.mem_flatten.mp inCorner
    obtain ⟨corner, -, asked⟩ := exists_of_mem_answers (forall₂_of_mapM_eq_some inCorners) inLists
    obtain ⟨rect, -, asked⟩ := Option.bind_eq_some_iff.mp asked
    obtain ⟨piece, isPiece, asked⟩ := Option.bind_eq_some_iff.mp asked
    exact ⟨rect, piece, list, NineSlice.partOf_corner? isPiece, asked, inList⟩
  · obtain ⟨list, inLists, inList⟩ := List.mem_flatten.mp inEdge
    obtain ⟨edge, -, asked⟩ := exists_of_mem_answers (forall₂_of_mapM_eq_some inEdges) inLists
    obtain ⟨rect, -, asked⟩ := Option.bind_eq_some_iff.mp asked
    obtain ⟨piece, isPiece, asked⟩ := Option.bind_eq_some_iff.mp asked
    exact ⟨rect, piece, list, NineSlice.partOf_edge? isPiece, asked, inList⟩

private theorem drawn_of_border? (formed : panel.border? art = some patches) :
    ∀ patch ∈ patches, patch.Drawn art.border.outer panel.zBorder := by
  intro patch member
  obtain ⟨rect, piece, stretched, part, isStretched, inPiece⟩ :=
    exists_piece_of_border? formed member
  obtain ⟨depth, within⟩ := Patch.drawn_of_stretch? isStretched patch inPiece
  exact ⟨depth, within.mono part⟩

end Panel

namespace Artwork

/-- The part of a sheet that the artwork takes with its rows and columns for every look. -/
def extent : SheetSize := ⟨240, 128⟩

theorem size_of {size : SheetSize} {art : Artwork} (formed : Artwork.of size = .ok art) :
    art.size = size := by
  unfold Artwork.of at formed
  split at formed
  · cases formed
  · cases formed
    rfl

theorem extent_holds : ∀ sprite ∈ sprites, extent.Holds sprite := by decide

theorem exists_buttonArt? (state : ButtonState) (phase : Px × Px) :
    ∃ border background, buttonArt? state phase = some ⟨border, background, .repeated phase⟩ ∧
      extent.Holds border.outer ∧ extent.Holds background := by
  cases state <;> exact ⟨_, _, rfl, by decide, by decide⟩

theorem exists_addIcon (state : ButtonState) :
    ∃ across icon, Px.fit? (state.row.val * addIcon.width.val) = some across ∧
      addIcon.offset? across 0 = some icon ∧ extent.Holds icon := by
  cases state <;> exact ⟨_, _, rfl, rfl, by decide⟩

end Artwork

/-- The patch has the depth of a layer and shows pixels of the artwork. -/
structure Patch.OnLayer (layer : Layer) (patch : Patch) : Prop where
  depth : patch.z = layer.depth
  onSheet : patch.OnSheet Artwork.extent

theorem Patch.Drawn.onLayer {sprite : Sprite} {layer : Layer} {patch : Patch}
    (drawn : patch.Drawn sprite layer.depth) (holds : Artwork.extent.Holds sprite) :
    patch.OnLayer layer :=
  ⟨drawn.depth, drawn.within.onSheet holds⟩

/-- A panel whose fill and border have the depth of one layer is on that layer. -/
theorem Panel.onLayer_of_patches? {panel : Panel} {art : PanelArt} {layer : Layer}
    {patches : List Patch} (fill : panel.zFill = layer.depth) (border : panel.zBorder = layer.depth)
    (background : Artwork.extent.Holds art.background)
    (frame : Artwork.extent.Holds art.border.outer)
    (formed : panel.patches? art = some patches) : ∀ patch ∈ patches, patch.OnLayer layer := by
  intro patch member
  obtain ⟨inside, filled, formed⟩ := Option.bind_eq_some_iff.mp formed
  obtain ⟨around, bordered, formed⟩ := Option.bind_eq_some_iff.mp formed
  cases formed
  rcases List.mem_append.mp member with inFill | inBorder
  · exact (fill ▸ drawn_of_fill? filled patch inFill).onLayer background
  · exact (border ▸ drawn_of_border? bordered patch inBorder).onLayer frame

/-- A tooltip is the panel over the bounds of its text, and the text on it. -/
theorem Tooltip.exists_of_of? {text : String} {x y screenWidth : Px} {font : Font}
    {tooltip : Tooltip} (formed : Tooltip.of? text x y screenWidth font = some tooltip) :
    ∃ textWidth, font.width? text = some textWidth ∧
      Tooltip.bounds? textWidth font.lineHeight x y screenWidth =
        some (tooltip.outer, tooltip.inner) ∧
      (Artwork.tooltipPanel tooltip.outer).patches? Artwork.tooltipArt = some tooltip.patches ∧
      tooltip.label.z = Layer.tooltip.depth := by
  obtain ⟨textWidth, isWidth, formed⟩ := Option.bind_eq_some_iff.mp formed
  obtain ⟨⟨outer, inner⟩, placed, formed⟩ := Option.bind_eq_some_iff.mp formed
  obtain ⟨patches, isPanel, formed⟩ := Option.bind_eq_some_iff.mp formed
  obtain ⟨labelX, -, formed⟩ := Option.bind_eq_some_iff.mp formed
  obtain ⟨labelY, -, formed⟩ := Option.bind_eq_some_iff.mp formed
  cases formed
  exact ⟨textWidth, isWidth, placed, isPanel, rfl⟩

namespace Artwork

variable {rect : Rect} {layer : Layer} {patches : List Patch}

theorem onLayer_icon? {sprite : Sprite} (holds : extent.Holds sprite)
    (formed : icon? rect sprite layer.depth = some patches) :
    ∀ patch ∈ patches, patch.OnLayer layer :=
  fun patch member => (Patch.drawn_of_stretch? formed patch member).onLayer holds

theorem onLayer_button? {state : ButtonState} {phase : Px × Px} {border : Px}
    (formed : button? rect layer.depth state phase border = some patches) :
    ∀ patch ∈ patches, patch.OnLayer layer := by
  obtain ⟨frame, background, isArt, holdsFrame, holdsBackground⟩ := exists_buttonArt? state phase
  obtain ⟨art, formedArt, formed⟩ := Option.bind_eq_some_iff.mp formed
  cases isArt.symm.trans formedArt
  exact Panel.onLayer_of_patches? rfl rfl holdsBackground holdsFrame formed

theorem onLayer_bookFrame? {outer : Rect} {settings : Settings} {paperPatches border : List Patch}
    (formed : bookFrame? outer settings = some (paperPatches, border)) :
    (∀ patch ∈ paperPatches, patch.OnLayer .paper) ∧ ∀ patch ∈ border, patch.OnLayer .frame := by
  obtain ⟨panel, isPanel, formed⟩ := Option.bind_eq_some_iff.mp formed
  obtain ⟨fill, filled, formed⟩ := Option.bind_eq_some_iff.mp formed
  obtain ⟨edges, bordered, formed⟩ := Option.bind_eq_some_iff.mp formed
  cases formed
  obtain ⟨corner, -, isPanel⟩ := Option.bind_eq_some_iff.mp isPanel
  cases isPanel
  constructor
  · intro patch member
    exact (Panel.drawn_of_fill? filled patch member).onLayer (extent_holds paper (by decide))
  · intro patch member
    exact (Panel.drawn_of_border? bordered patch member).onLayer
      (extent_holds frame.outer (by decide))

/-- The caps of the bar take one row above and one below its sprite. Neither leaves the sheet. -/
theorem onLayer_separatorBar? {area : Rect} (formed : separatorBar? area = some patches) :
    ∀ patch ∈ patches, patch.OnLayer .frame := by
  intro patch member
  unfold separatorBar? at formed
  split_ifs at formed with empty
  · cases formed
    cases member
  · obtain ⟨right, -, formed⟩ := Option.bind_eq_some_iff.mp formed
    obtain ⟨bottom, -, formed⟩ := Option.bind_eq_some_iff.mp formed
    obtain ⟨uRight, isRight, formed⟩ := Option.bind_eq_some_iff.mp formed
    obtain ⟨vBottom, isBottom, formed⟩ := Option.bind_eq_some_iff.mp formed
    obtain ⟨above, -, formed⟩ := Option.bind_eq_some_iff.mp formed
    obtain ⟨below, -, formed⟩ := Option.bind_eq_some_iff.mp formed
    obtain ⟨vAbove, isAbove, formed⟩ := Option.bind_eq_some_iff.mp formed
    obtain ⟨vBelow, isBelow, formed⟩ := Option.bind_eq_some_iff.mp formed
    obtain ⟨upperCap, -, formed⟩ := Option.bind_eq_some_iff.mp formed
    obtain ⟨lowerCap, -, formed⟩ := Option.bind_eq_some_iff.mp formed
    rw [Sprite.right?_eq_some_iff] at isRight
    rw [Sprite.bottom?_eq_some_iff] at isBottom
    rw [Px.fit?_eq_some_iff] at isAbove isBelow
    obtain ⟨left, -, across, -⟩ := extent_holds separator (by decide)
    have wide := separator.width_pos
    have high := separator.height_pos
    have rowAbove : 1 ≤ separator.top.val := by decide
    have rowBelow : separator.top.val + separator.height.val + 1 ≤ extent.height.toNat := by decide
    cases formed
    simp only [List.mem_cons, List.not_mem_nil, or_false] at member
    rcases member with rfl | rfl | rfl <;> refine ⟨rfl, ?_⟩ <;> unfold Patch.OnSheet
    · dsimp only
      omega
    · dsimp only
      omega
    · dsimp only
      omega

theorem onLayer_tooltip {text : String} {x y screenWidth : Px} {font : Font} {tooltip : Tooltip}
    (formed : Tooltip.of? text x y screenWidth font = some tooltip) :
    (∀ patch ∈ tooltip.patches, patch.OnLayer .tooltip) ∧
      tooltip.label.z = Layer.tooltip.depth := by
  obtain ⟨_, -, -, isPanel, isLabel⟩ := Tooltip.exists_of_of? formed
  exact ⟨Panel.onLayer_of_patches? rfl rfl (by decide) (by decide) isPanel, isLabel⟩

end Artwork

end Handbook
