import Handbook.Proofs.Answers
import Handbook.Proofs.Tiling.Cutting
import Handbook.Tiling.Patch

namespace Handbook.Patch

/-- The column and the row of the sheet that a pixel of the cell shows. -/
def sampleAt (patch : Patch) (x y : Int) : Int × Int :=
  (patch.uLeft.val + (x - patch.cell.left.val), patch.vTop.val + (y - patch.cell.top.val))

/-- The first patch is read before the second: it ends above it, or stands in the same rows and ends
to its left. -/
def Precedes (first second : Patch) : Prop :=
  first.cell.top.val + first.cell.height.val ≤ second.cell.top.val ∨
    first.cell.top = second.cell.top ∧ first.cell.height = second.cell.height ∧
      first.cell.left.val + first.cell.width.val ≤ second.cell.left.val

theorem Precedes.not_both_cover {first second : Patch} (before : first.Precedes second) {x y : Int} :
    ¬ (first.cell.Covers x y ∧ second.cell.Covers x y) := by
  rintro ⟨inFirst, inSecond⟩
  unfold Rect.Covers at inFirst inSecond
  rcases before with above | ⟨_, _, toTheLeft⟩ <;> omega

/-- The patches repeat the sprite over the destination, tiles starting in the phase. -/
structure Tiles (dest : Rect) (sprite : Sprite) (phase : Px × Px) (patches : List Patch) :
    Prop where
  nonempty : ∀ patch ∈ patches, patch.cell.isEmpty = false
  inside : ∀ patch ∈ patches, ∀ x y, patch.cell.Covers x y → dest.Covers x y
  once : ∀ x y, dest.Covers x y →
    patches.countP (fun patch => decide (patch.cell.Covers x y)) = 1
  samples : ∀ patch ∈ patches, ∀ x y, patch.cell.Covers x y → patch.sampleAt x y =
    (sprite.left.val + (x - dest.left.val - phase.1.val) % sprite.width.val,
      sprite.top.val + (y - dest.top.val - phase.2.val) % sprite.height.val)
  sameSize : ∀ patch ∈ patches,
    patch.uRight.val - patch.uLeft.val = patch.cell.width.val ∧
      patch.vBottom.val - patch.vTop.val = patch.cell.height.val
  onSprite : ∀ patch ∈ patches,
    sprite.left.val ≤ patch.uLeft.val ∧
      patch.uRight.val ≤ sprite.left.val + sprite.width.val ∧
      sprite.top.val ≤ patch.vTop.val ∧
      patch.vBottom.val ≤ sprite.top.val + sprite.height.val
  ordered : patches.Pairwise Precedes

theorem Tiles.eq_nil_of_isEmpty {dest : Rect} {sprite : Sprite} {phase : Px × Px}
    {patches : List Patch} (tiles : Tiles dest sprite phase patches) (empty : dest.isEmpty = true) :
    patches = [] := by
  apply List.eq_nil_iff_forall_not_mem.mpr
  intro patch member
  have none : patch.cell.isEmpty = true := Rect.isEmpty_iff.mpr fun x y covers =>
    Rect.isEmpty_iff.mp empty x y (tiles.inside patch member x y covers)
  rw [tiles.nonempty patch member] at none
  cases none

/-- The patch stands where a row and a column of spans meet. -/
structure Meets (dest : Rect) (sprite : Sprite) (row column : Span) (patch : Patch) : Prop where
  left : patch.cell.left.val = dest.left.val + column.offset.val
  top : patch.cell.top.val = dest.top.val + row.offset.val
  width : patch.cell.width.val = column.length.val
  height : patch.cell.height.val = row.length.val
  uLeft : patch.uLeft.val = sprite.left.val + column.source.val
  uRight : patch.uRight.val = sprite.left.val + column.source.val + column.length.val
  vTop : patch.vTop.val = sprite.top.val + row.source.val
  vBottom : patch.vBottom.val = sprite.top.val + row.source.val + row.length.val

/-- Rows of patches, one patch for each place where a row and a column of the cut axes meet. -/
structure Grid (dest : Rect) (sprite : Sprite) (phase : Px × Px) (columns rows : List Span)
    (lists : List (List Patch)) : Prop where
  followColumns : Span.Follow 0 columns dest.width.val
  followRows : Span.Follow 0 rows dest.height.val
  across : ∀ column ∈ columns, column.OnAxis dest.width.val sprite.width.val phase.1.val
  down : ∀ row ∈ rows, row.OnAxis dest.height.val sprite.height.val phase.2.val
  meet : List.Forall₂ (fun row => List.Forall₂ (Meets dest sprite row) columns) rows lists

variable {dest : Rect} {sprite : Sprite} {phase : Px × Px} {row column : Span} {patch : Patch}

theorem Meets.covers_iff (meets : Meets dest sprite row column patch) {x y : Int} :
    patch.cell.Covers x y ↔
      column.Covers (x - dest.left.val) ∧ row.Covers (y - dest.top.val) := by
  obtain ⟨left, top, width, height, _, _, _, _⟩ := meets
  unfold Rect.Covers Span.Covers
  omega

theorem Meets.sampleAt_eq (meets : Meets dest sprite row column patch)
    (across : column.InPhase sprite.width.val phase.1.val)
    (down : row.InPhase sprite.height.val phase.2.val) {x y : Int} (covers : patch.cell.Covers x y) :
    patch.sampleAt x y =
      (sprite.left.val + (x - dest.left.val - phase.1.val) % sprite.width.val,
        sprite.top.val + (y - dest.top.val - phase.2.val) % sprite.height.val) := by
  obtain ⟨inColumn, inRow⟩ := meets.covers_iff.mp covers
  obtain ⟨left, top, width, height, uLeft, uRight, vTop, vBottom⟩ := meets
  rw [sampleAt, ← across.source_add inColumn, ← down.source_add inRow, uLeft, vTop, left, top]
  ext <;> simp only <;> omega

section

variable (right : dest.right?.isSome) (bottom : dest.bottom?.isSome)
  (spriteRight : sprite.right?.isSome) (spriteBottom : sprite.bottom?.isSome)

include right bottom spriteRight spriteBottom

private theorem exists_cell (z : Binary32)
    (across : column.OnAxis dest.width.val sprite.width.val phase.1.val)
    (down : row.OnAxis dest.height.val sprite.height.val phase.2.val) {vTop : Px}
    (sampled : vTop.val = sprite.top.val + row.source.val) :
    ∃ patch, cell? dest sprite z row vTop column = some patch ∧
      Meets dest sprite row column patch := by
  obtain ⟨⟨sourceNonneg, sourceLe, _⟩, offsetNonneg, lengthPos, endLe⟩ := across
  obtain ⟨⟨vSourceNonneg, vSourceLe, _⟩, vOffsetNonneg, vLengthPos, vEndLe⟩ := down
  have rightFits := Px.fit?_isSome_iff.mp right
  have bottomFits := Px.fit?_isSome_iff.mp bottom
  have spriteRightFits := Px.fit?_isSome_iff.mp spriteRight
  have spriteBottomFits := Px.fit?_isSome_iff.mp spriteBottom
  have ⟨_, _⟩ := dest.left.inRange_val
  have ⟨_, _⟩ := dest.top.inRange_val
  have ⟨_, _⟩ := sprite.left.inRange_val
  have ⟨_, _⟩ := sprite.top.inRange_val
  unfold Px.InRange at rightFits bottomFits spriteRightFits spriteBottomFits
  obtain ⟨uLeft, formedULeft, valueULeft⟩ :=
    Px.exists_fit? (sprite.left.val + column.source.val) ⟨by omega, by omega⟩
  obtain ⟨left, formedLeft, valueLeft⟩ :=
    Px.exists_fit? (dest.left.val + column.offset.val) ⟨by omega, by omega⟩
  obtain ⟨top, formedTop, valueTop⟩ :=
    Px.exists_fit? (dest.top.val + row.offset.val) ⟨by omega, by omega⟩
  obtain ⟨uRight, formedURight, valueURight⟩ :=
    Px.exists_fit? (uLeft.val + column.length.val) ⟨by omega, by omega⟩
  obtain ⟨vBottom, formedVBottom, valueVBottom⟩ :=
    Px.exists_fit? (vTop.val + row.length.val) ⟨by omega, by omega⟩
  refine ⟨_, by
    simp only [cell?, Option.bind_eq_bind, formedULeft, formedLeft, formedTop, formedURight,
      formedVBottom, Option.bind_some, Option.pure_def]
    rfl, ?_⟩
  constructor <;> simp only [Rect.ofSize, Px.val_max, Px.val_zero] <;> omega

private theorem exists_row (z : Binary32) {columns : List Span}
    (across : ∀ column ∈ columns, column.OnAxis dest.width.val sprite.width.val phase.1.val)
    (down : row.OnAxis dest.height.val sprite.height.val phase.2.val) :
    ∃ patches, row? dest sprite z columns row = some patches ∧
      List.Forall₂ (Meets dest sprite row) columns patches := by
  have spriteBottomFits := Px.fit?_isSome_iff.mp spriteBottom
  have ⟨_, _⟩ := sprite.top.inRange_val
  have lengthPos := down.length_pos
  have sourceNonneg := down.source_nonneg
  have sourceLe := down.source_le
  unfold Px.InRange at spriteBottomFits
  obtain ⟨vTop, formed, sampled⟩ :=
    Px.exists_fit? (sprite.top.val + row.source.val) ⟨by omega, by omega⟩
  obtain ⟨patches, found, meet⟩ := exists_mapM_eq_some fun column member =>
    exists_cell right bottom spriteRight spriteBottom z (across column member) down sampled
  exact ⟨patches, by simp [row?, formed, found], meet⟩

/-- A tiling does not leave the range, and its rows of cells are those of the cut axes. -/
theorem exists_grid (z : Binary32) (phase : Px × Px) :
    ∃ columns rows lists, tiling? dest sprite z phase = some lists.flatten ∧
      Grid dest sprite phase columns rows lists := by
  obtain ⟨columns, foundColumns, followColumns, across⟩ :=
    Span.exists_cut phase.1 dest.width_nonneg sprite.width_pos
  obtain ⟨rows, foundRows, followRows, down⟩ :=
    Span.exists_cut phase.2 dest.height_nonneg sprite.height_pos
  obtain ⟨lists, foundLists, meet⟩ := exists_mapM_eq_some fun row member =>
    exists_row right bottom spriteRight spriteBottom z across (down row member)
  refine ⟨columns, rows, lists, ?_, followColumns, followRows, across, down, meet⟩
  simp [tiling?, foundColumns, foundRows, foundLists]

end

namespace Grid

variable {columns rows : List Span} {lists : List (List Patch)}
  (grid : Grid dest sprite phase columns rows lists)

include grid

theorem exists_meets (member : patch ∈ lists.flatten) :
    ∃ row column, row.OnAxis dest.height.val sprite.height.val phase.2.val ∧
      column.OnAxis dest.width.val sprite.width.val phase.1.val ∧
      Meets dest sprite row column patch := by
  obtain ⟨patches, inLists, inPatches⟩ := List.mem_flatten.mp member
  obtain ⟨row, inRows, meet⟩ := exists_of_mem_answers grid.meet inLists
  obtain ⟨column, inColumns, meets⟩ := exists_of_mem_answers meet inPatches
  exact ⟨row, column, grid.down row inRows, grid.across column inColumns, meets⟩

theorem exists_covers {x y : Int} (covers : dest.Covers x y) :
    ∃ patch ∈ lists.flatten, patch.cell.Covers x y := by
  obtain ⟨atLeft, beforeRight, atTop, beforeBottom⟩ := covers
  obtain ⟨row, inRows, inRow⟩ :=
    grid.followRows.exists_covers (x := y - dest.top.val) (by omega) (by omega)
  obtain ⟨column, inColumns, inColumn⟩ :=
    grid.followColumns.exists_covers (x := x - dest.left.val) (by omega) (by omega)
  obtain ⟨patches, inLists, meet⟩ := exists_answer_of_mem grid.meet inRows
  obtain ⟨patch, inPatches, meets⟩ := exists_answer_of_mem meet inColumns
  exact ⟨patch, List.mem_flatten.mpr ⟨patches, inLists, inPatches⟩,
    meets.covers_iff.mpr ⟨inColumn, inRow⟩⟩

/-- Within a row the columns order the cells, and between rows the rows do. -/
theorem pairwise_precedes : lists.flatten.Pairwise Precedes := by
  refine List.pairwise_flatten.mpr ⟨fun patches inLists => ?_, ?_⟩
  · obtain ⟨row, _, meet⟩ := exists_of_mem_answers grid.meet inLists
    apply pairwise_answers meet grid.followColumns.pairwise
    intro _ _ _ _ before first second
    refine .inr ⟨Px.ext ?_, Px.ext ?_, ?_⟩
    · rw [first.top, second.top]
    · rw [first.height, second.height]
    · rw [first.left, first.width, second.left]
      omega
  · apply pairwise_answers grid.meet grid.followRows.pairwise
    intro _ _ _ _ before meetFirst meetSecond first inFirst second inSecond
    obtain ⟨_, _, meetsFirst⟩ := exists_of_mem_answers meetFirst inFirst
    obtain ⟨_, _, meetsSecond⟩ := exists_of_mem_answers meetSecond inSecond
    refine .inl ?_
    rw [meetsFirst.top, meetsFirst.height, meetsSecond.top]
    omega

theorem tiles : Tiles dest sprite phase lists.flatten where
  nonempty patch member := by
    obtain ⟨row, column, down, across, meets⟩ := grid.exists_meets member
    have wide := across.length_pos
    have high := down.length_pos
    simp only [Rect.isEmpty, Bool.or_eq_false_iff, beq_eq_false_iff_ne]
    rw [meets.width, meets.height]
    omega
  inside patch member x y covers := by
    obtain ⟨row, column, down, across, meets⟩ := grid.exists_meets member
    obtain ⟨inColumn, inRow⟩ := meets.covers_iff.mp covers
    have columnStart := across.offset_nonneg
    have columnEnd := across.end_le
    have rowStart := down.offset_nonneg
    have rowEnd := down.end_le
    unfold Span.Covers at inColumn inRow
    unfold Rect.Covers
    omega
  once x y covers :=
    countP_eq_one_of_pairwise grid.pairwise_precedes (grid.exists_covers covers)
      fun _ _ before => before.not_both_cover
  samples patch member x y covers := by
    obtain ⟨row, column, down, across, meets⟩ := grid.exists_meets member
    exact meets.sampleAt_eq across.toInPhase down.toInPhase covers
  sameSize patch member := by
    obtain ⟨row, column, down, across, meets⟩ := grid.exists_meets member
    rw [meets.uLeft, meets.uRight, meets.vTop, meets.vBottom, meets.width, meets.height]
    omega
  onSprite patch member := by
    obtain ⟨row, column, down, across, meets⟩ := grid.exists_meets member
    have columnStart := across.source_nonneg
    have columnEnd := across.source_le
    have rowStart := down.source_nonneg
    have rowEnd := down.source_le
    rw [meets.uLeft, meets.uRight, meets.vTop, meets.vBottom]
    omega
  ordered := grid.pairwise_precedes

end Grid

private theorem exists_quad (size : SheetSize) (patch : Patch)
    (right : Px.InRange (patch.cell.left.val + patch.cell.width.val))
    (bottom : Px.InRange (patch.cell.top.val + patch.cell.height.val)) :
    ∃ quad, quad? size patch = some quad := by
  obtain ⟨far, formedFar, _⟩ := Px.exists_fit? _ right
  obtain ⟨low, formedLow, _⟩ := Px.exists_fit? _ bottom
  exact ⟨_, by simp [quad?, Quad.over?, Rect.right?, Rect.bottom?, formedFar, formedLow]; rfl⟩

/-- Patches with pixels inside a rectangle on the pixel range become quads. -/
theorem exists_quads {patches : List Patch} (size : SheetSize)
    (nonempty : ∀ patch ∈ patches, patch.cell.isEmpty = false)
    (inside : ∀ patch ∈ patches, ∀ x y, patch.cell.Covers x y → dest.Covers x y)
    (right : dest.right?.isSome) (bottom : dest.bottom?.isSome) :
    ∃ quads, quads? size patches = some quads := by
  have ⟨_, _⟩ := Px.fit?_isSome_iff.mp right
  have ⟨_, _⟩ := Px.fit?_isSome_iff.mp bottom
  have every : ∀ patch ∈ patches, ∃ quad, quad? size patch = some quad ∧
      quad? size patch = some quad := by
    intro patch member
    have ⟨_, _⟩ := patch.cell.left.inRange_val
    have ⟨_, _⟩ := patch.cell.top.inRange_val
    have wide := patch.cell.width_nonneg
    have high := patch.cell.height_nonneg
    have occupied := nonempty patch member
    simp only [Rect.isEmpty, Bool.or_eq_false_iff, beq_eq_false_iff_ne] at occupied
    have lastPixel : dest.Covers (patch.cell.left.val + patch.cell.width.val - 1)
        (patch.cell.top.val + patch.cell.height.val - 1) := by
      apply inside patch member
      unfold Rect.Covers
      omega
    obtain ⟨-, across, -, down⟩ := lastPixel
    obtain ⟨quad, formed⟩ := exists_quad size patch ⟨by omega, by omega⟩ ⟨by omega, by omega⟩
    exact ⟨quad, formed, formed⟩
  obtain ⟨quads, formed, -⟩ := exists_mapM_eq_some every
  exact ⟨quads, formed⟩

/-- The cells of a tiling become quads without leaving the range. -/
theorem Grid.exists_quads {columns rows : List Span} {lists : List (List Patch)}
    (grid : Grid dest sprite phase columns rows lists) (size : SheetSize)
    (right : dest.right?.isSome) (bottom : dest.bottom?.isSome) :
    ∃ quads, quads? size lists.flatten = some quads :=
  Patch.exists_quads size grid.tiles.nonempty grid.tiles.inside right bottom

end Handbook.Patch
