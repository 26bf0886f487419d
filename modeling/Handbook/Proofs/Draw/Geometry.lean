import Handbook.Proofs.Binary32.Shares
import Handbook.Proofs.Tiling.Clipping
import Handbook.Proofs.Tiling.Covering

namespace Handbook

attribute [local instance] natPower

namespace Binary32

theorem sameBits_ofInt_iff {whole other : Int} (short : whole.natAbs ≤ 2 ^ (24 : Nat))
    (otherShort : other.natAbs ≤ 2 ^ (24 : Nat)) :
    (ofInt whole).SameBits (ofInt other) ↔ whole = other := by
  rw [SameBits, ofInt_eq_ofInt_iff short otherShort]
  exact and_iff_left (ofQuotient_ne_nan _ _ _)

variable {start length other otherLength : Px}

theorem meet_iff (short : (start.val + length.val).natAbs ≤ 2 ^ (24 : Nat))
    (otherShort : other.val.natAbs ≤ 2 ^ (24 : Nat)) :
    (ofInt (start.val + length.val)).SameBits (ofInt other.val) ↔
      Px.fit? (start.val + length.val) = some other := by
  rw [sameBits_ofInt_iff short otherShort, Px.fit?_eq_some_iff, eq_comm]

/-- What has the same numbers for its start and its end has the same start and length. -/
theorem level_iff (short : start.val.natAbs ≤ 2 ^ (24 : Nat))
    (endShort : (start.val + length.val).natAbs ≤ 2 ^ (24 : Nat))
    (otherShort : other.val.natAbs ≤ 2 ^ (24 : Nat))
    (otherEndShort : (other.val + otherLength.val).natAbs ≤ 2 ^ (24 : Nat)) :
    ((ofInt start.val).SameBits (ofInt other.val) ∧
      (ofInt (start.val + length.val)).SameBits (ofInt (other.val + otherLength.val))) ↔
      start = other ∧ length = otherLength := by
  rw [sameBits_ofInt_iff short otherShort, sameBits_ofInt_iff endShort otherEndShort,
    Px.ext_val_iff, Px.ext_val_iff]
  omega

end Binary32

namespace Rect

private theorem ofSize_extent (rect : Rect) :
    ofSize rect.left rect.top rect.width rect.height = rect := by
  have wide := rect.width_nonneg
  have high := rect.height_nonneg
  refine ext_extent rfl rfl ?_ ?_
  · rw [val_width_ofSize]
    omega
  · rw [val_height_ofSize]
    omega

/-- The first column and row of the rectangle and those past its last ones. -/
def edges (rect : Rect) : List Int :=
  [rect.left.val, rect.top.val, rect.left.val + rect.width.val, rect.top.val + rect.height.val]

/-- Every edge of the rectangle lies at most `2 ^ 24` pixels from the origin. -/
def HasExactEdges (rect : Rect) : Prop := ∀ edge ∈ rect.edges, edge.natAbs ≤ 2 ^ (24 : Nat)

instance (rect : Rect) : Decidable rect.HasExactEdges :=
  inferInstanceAs (Decidable (∀ edge ∈ _, _))

variable {rect other dest cell : Rect}

theorem hasExactEdges_iff : rect.HasExactEdges ↔
    rect.left.val.natAbs ≤ 2 ^ (24 : Nat) ∧ rect.top.val.natAbs ≤ 2 ^ (24 : Nat) ∧
      (rect.left.val + rect.width.val).natAbs ≤ 2 ^ (24 : Nat) ∧
      (rect.top.val + rect.height.val).natAbs ≤ 2 ^ (24 : Nat) := by
  simp [HasExactEdges, edges]

theorem HasExactEdges.onRange (exact : rect.HasExactEdges) : rect.OnRange := by
  obtain ⟨-, -, right, bottom⟩ := hasExactEdges_iff.mp exact
  exact ⟨Px.fit?_isSome_iff.mpr ⟨by omega, by omega⟩, Px.fit?_isSome_iff.mpr ⟨by omega, by omega⟩⟩

/-- The edges of a rectangle with a pixel lie between those of any rectangle that has its pixels. -/
theorem HasExactEdges.of_inside (exact : dest.HasExactEdges) (occupied : cell.isEmpty = false)
    (inside : ∀ x y, cell.Covers x y → dest.Covers x y) : cell.HasExactEdges := by
  obtain ⟨left, top, right, bottom⟩ := hasExactEdges_iff.mp exact
  obtain ⟨first, last⟩ := covers_ends occupied
  obtain ⟨notBefore, -, notAbove, -⟩ := inside _ _ first
  obtain ⟨atLeft, notPast, atTop, notBelow⟩ := inside _ _ last
  have wide := cell.width_nonneg
  have high := cell.height_nonneg
  exact hasExactEdges_iff.mpr ⟨by omega, by omega, by omega, by omega⟩

end Rect

namespace Patch

/-- Two cells of a tiling are not one rectangle: they have no pixel in common. -/
theorem Tiles.cells_apart {dest : Rect} {sprite : Sprite} {phase : Px × Px} {patches : List Patch}
    (tiles : Tiles dest sprite phase patches) :
    patches.Pairwise fun first second => first.cell ≠ second.cell := by
  refine tiles.ordered.imp_of_mem fun {first second} member _ before same => ?_
  have corner := (Rect.covers_ends (tiles.nonempty first member)).1
  exact before.not_both_cover ⟨corner, same ▸ corner⟩

end Patch

namespace Quad

/-- The second quad starts in the column in which the first one ends, between the same rows. -/
structure SideBySide (left right : Quad) : Prop where
  meet : left.right.SameBits right.left
  top : left.top.SameBits right.top
  bottom : left.bottom.SameBits right.bottom

/-- The second quad starts in the row in which the first one ends, between the same columns. -/
structure Stacked (upper lower : Quad) : Prop where
  meet : upper.bottom.SameBits lower.top
  left : upper.left.SameBits lower.left
  right : upper.right.SameBits lower.right

/-- The numbers of the quad's edges are those of the rectangle's edges. -/
structure HasEdges (rect : Rect) (quad : Quad) : Prop where
  left : quad.left = .ofInt rect.left.val
  top : quad.top = .ofInt rect.top.val
  right : quad.right = .ofInt (rect.left.val + rect.width.val)
  bottom : quad.bottom = .ofInt (rect.top.val + rect.height.val)

variable {rect other : Rect} {quad otherQuad : Quad}

theorem hasEdges_of_over? {z uLeft vTop uRight vBottom : Binary32}
    (formed : over? rect z uLeft vTop uRight vBottom = some quad) : quad.HasEdges rect := by
  obtain ⟨right, isRight, formed⟩ := Option.bind_eq_some_iff.mp formed
  obtain ⟨bottom, isBottom, formed⟩ := Option.bind_eq_some_iff.mp formed
  cases formed
  refine ⟨rfl, rfl, ?_, ?_⟩
  · rw [← Px.fit?_eq_some_iff.mp isRight]
  · rw [← Px.fit?_eq_some_iff.mp isBottom]

/-- A quad is formed over every rectangle whose far edges are pixel numbers. -/
theorem exists_over? (onRange : rect.OnRange) (z uLeft vTop uRight vBottom : Binary32) :
    ∃ quad, over? rect z uLeft vTop uRight vBottom = some quad := by
  obtain ⟨right, isRight⟩ := Option.isSome_iff_exists.mp onRange.1
  obtain ⟨bottom, isBottom⟩ := Option.isSome_iff_exists.mp onRange.2
  simp [over?, isRight, isBottom]

/-- From edges that are numbers themselves the rectangle is read off again. -/
theorem HasEdges.rect?_eq (hasEdges : quad.HasEdges rect) (exact : rect.HasExactEdges) :
    quad.rect? = some rect := by
  obtain ⟨left, top, right, bottom⟩ := Rect.hasExactEdges_iff.mp exact
  have isLeft : quad.left.truncate = rect.left := by
    rw [hasEdges.left]
    exact Px.ext (Binary32.truncate_ofInt_of_short left)
  have isTop : quad.top.truncate = rect.top := by
    rw [hasEdges.top]
    exact Px.ext (Binary32.truncate_ofInt_of_short top)
  have width : quad.right.truncate.val - rect.left.val = rect.width.val := by
    rw [hasEdges.right, Binary32.truncate_ofInt_of_short right]
    omega
  have height : quad.bottom.truncate.val - rect.top.val = rect.height.val := by
    rw [hasEdges.bottom, Binary32.truncate_ofInt_of_short bottom]
    omega
  rw [rect?, Rect.ofCorners?, isLeft, isTop, width, height, Px.fit?_val, Px.fit?_val]
  exact congrArg some rect.ofSize_extent

theorem HasEdges.sideBySide_iff (hasEdges : quad.HasEdges rect)
    (otherHasEdges : otherQuad.HasEdges other) (exact : rect.HasExactEdges)
    (otherExact : other.HasExactEdges) :
    quad.SideBySide otherQuad ↔ rect.SideBySide other := by
  obtain ⟨-, top, right, bottom⟩ := Rect.hasExactEdges_iff.mp exact
  obtain ⟨otherLeft, otherTop, -, otherBottom⟩ := Rect.hasExactEdges_iff.mp otherExact
  have meet := Binary32.meet_iff right otherLeft
  have rows := Binary32.level_iff top bottom otherTop otherBottom
  rw [← hasEdges.right, ← otherHasEdges.left] at meet
  rw [← hasEdges.top, ← hasEdges.bottom, ← otherHasEdges.top, ← otherHasEdges.bottom] at rows
  constructor
  · rintro ⟨meets, sameTop, sameBottom⟩
    obtain ⟨isTop, isHeight⟩ := rows.mp ⟨sameTop, sameBottom⟩
    exact ⟨meet.mp meets, isTop, isHeight⟩
  · rintro ⟨meets, sameTop, sameHeight⟩
    obtain ⟨isTop, isBottom⟩ := rows.mpr ⟨sameTop, sameHeight⟩
    exact ⟨meet.mpr meets, isTop, isBottom⟩

/-- Quads stand above each other exactly where their rectangles do. -/
theorem HasEdges.stacked_iff (hasEdges : quad.HasEdges rect)
    (otherHasEdges : otherQuad.HasEdges other) (exact : rect.HasExactEdges)
    (otherExact : other.HasExactEdges) : quad.Stacked otherQuad ↔ rect.Stacked other := by
  obtain ⟨left, -, right, bottom⟩ := Rect.hasExactEdges_iff.mp exact
  obtain ⟨otherLeft, otherTop, otherRight, -⟩ := Rect.hasExactEdges_iff.mp otherExact
  have meet := Binary32.meet_iff bottom otherTop
  have columns := Binary32.level_iff left right otherLeft otherRight
  rw [← hasEdges.bottom, ← otherHasEdges.top] at meet
  rw [← hasEdges.left, ← hasEdges.right, ← otherHasEdges.left, ← otherHasEdges.right] at columns
  constructor
  · rintro ⟨meets, sameLeft, sameRight⟩
    obtain ⟨isLeft, isWidth⟩ := columns.mp ⟨sameLeft, sameRight⟩
    exact ⟨meet.mp meets, isLeft, isWidth⟩
  · rintro ⟨meets, sameLeft, sameWidth⟩
    obtain ⟨isLeft, isRight⟩ := columns.mpr ⟨sameLeft, sameWidth⟩
    exact ⟨meet.mpr meets, isLeft, isRight⟩

/-- The quads have the rectangles of the cells; they are as distinct as the cells, and two of them
meet exactly where their cells do. -/
structure KeepCells (patches : List Patch) (quads : List Quad) : Prop where
  rects : quads.map rect? = patches.map fun patch => some patch.cell
  distinct : quads.Pairwise fun first second => first.rect? ≠ second.rect?
  across : ∀ pair ∈ patches.zip quads, ∀ other ∈ patches.zip quads,
    (pair.2.SideBySide other.2 ↔ pair.1.cell.SideBySide other.1.cell)
  down : ∀ pair ∈ patches.zip quads, ∀ other ∈ patches.zip quads,
    (pair.2.Stacked other.2 ↔ pair.1.cell.Stacked other.1.cell)

/-- Cells with exact edges that are distinct are drawn as quads that keep them. -/
theorem keepCells_of_quads? {patches : List Patch} {quads : List Quad} {size : SheetSize}
    (formed : Patch.quads? size patches = some quads)
    (exact : ∀ patch ∈ patches, patch.cell.HasExactEdges)
    (apart : patches.Pairwise fun first second => first.cell ≠ second.cell) :
    KeepCells patches quads := by
  have fit := forall₂_of_mapM_eq_some formed
  have hasEdges : ∀ pair ∈ patches.zip quads,
      pair.2.HasEdges pair.1.cell ∧ pair.1.cell.HasExactEdges := fun pair member =>
    ⟨hasEdges_of_over? (List.forall₂_zip fit member),
      exact pair.1 (List.of_mem_zip member).1⟩
  have rects : quads.map rect? = patches.map fun patch => some patch.cell :=
    map_answers fit fun patch member _ isQuad =>
      (hasEdges_of_over? isQuad).rect?_eq (exact patch member)
  have distinct : (quads.map rect?).Pairwise (· ≠ ·) := by
    rw [rects, List.pairwise_map]
    exact apart.imp fun different same => different (Option.some.inj same)
  refine ⟨rects, List.pairwise_map.mp distinct, ?_, ?_⟩
  · intro pair member other otherMember
    obtain ⟨isQuad, isExact⟩ := hasEdges pair member
    obtain ⟨isOther, otherExact⟩ := hasEdges other otherMember
    exact isQuad.sideBySide_iff isOther isExact otherExact
  · intro pair member other otherMember
    obtain ⟨isQuad, isExact⟩ := hasEdges pair member
    obtain ⟨isOther, otherExact⟩ := hasEdges other otherMember
    exact isQuad.stacked_iff isOther isExact otherExact

/-- Quads keep whole-pixel geometry. A rectangle whose edges lie at most `2 ^ 24` pixels from the
origin is formed as a quad, with given texture coordinates or with pixels of a sheet, and read off it
again. The quads of a tiling of it have the cells for rectangles, so they stay distinct and meet
exactly where the cells meet. -/
theorem whole_pixels_kept (dest : Rect) (exact : dest.HasExactEdges) :
    (∀ z uLeft vTop uRight vBottom : Binary32, ∃ quad,
      over? dest z uLeft vTop uRight vBottom = some quad ∧ quad.rect? = some dest) ∧
    (∀ (z : Binary32) (uLeft vTop uRight vBottom : Px) (size : SheetSize), ∃ quad,
      Patch.quad? size ⟨dest, z, uLeft, vTop, uRight, vBottom⟩ = some quad ∧
        quad.rect? = some dest) ∧
    ∀ (sprite : Sprite) (z : Binary32) (phase : Px × Px) (size : SheetSize),
      sprite.right?.isSome → sprite.bottom?.isSome →
      ∃ patches quads, Patch.tiling? dest sprite z phase = some patches ∧
        Patch.quads? size patches = some quads ∧ KeepCells patches quads := by
  have formed : ∀ z uLeft vTop uRight vBottom : Binary32, ∃ quad,
      over? dest z uLeft vTop uRight vBottom = some quad ∧ quad.rect? = some dest := by
    intro z uLeft vTop uRight vBottom
    obtain ⟨quad, isQuad⟩ := exists_over? exact.onRange z uLeft vTop uRight vBottom
    exact ⟨quad, isQuad, (hasEdges_of_over? isQuad).rect?_eq exact⟩
  refine ⟨formed, fun z _ _ _ _ _ => formed z _ _ _ _, ?_⟩
  intro sprite z phase size spriteRight spriteBottom
  obtain ⟨right, bottom⟩ := exact.onRange
  obtain ⟨columns, rows, lists, tiled, grid⟩ :=
    Patch.exists_grid right bottom spriteRight spriteBottom z phase
  obtain ⟨quads, drawn⟩ := grid.exists_quads size right bottom
  have tiles := grid.tiles
  exact ⟨lists.flatten, quads, tiled, drawn, keepCells_of_quads? drawn
    (fun patch member => exact.of_inside (tiles.nonempty patch member) (tiles.inside patch member))
    tiles.cells_apart⟩

/-- A rectangle between the far ends on the left and on the right. -/
theorem whole_pixels_kept_farEnds :
    (Rect.ofSize (Px.saturate (-16777216)) (Px.saturate (-4)) 33554432 9).HasExactEdges ∧
      ∃ quad, Patch.quad? ⟨0, 256⟩
          ⟨.ofSize (Px.saturate (-16777216)) (Px.saturate (-4)) 33554432 9, .nan, 64, 0, 96, 32⟩ =
            some quad ∧
        quad.rect? = some (.ofSize (Px.saturate (-16777216)) (Px.saturate (-4)) 33554432 9) :=
  ⟨by decide, (whole_pixels_kept _ (by decide)).2.1 _ _ _ _ _ _⟩

/-- The first column past the exact ones is lost. -/
example : ((over? (.ofSize 16777216 0 1 1) 0 0 0 1 1).bind rect?) =
    some (.ofSize 16777216 0 0 1) := by
  decide

end Quad

end Handbook
