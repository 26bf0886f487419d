import Handbook.Proofs.Ninths
import Handbook.Proofs.Sheet.Checking

namespace Handbook

namespace Box

/-- The sprite between the edges of a box; `none` when an edge leaves the range or there is no pixel
between them. -/
def sprite? (box : Box) : Option Sprite := do
  let left ← Px.fit? box.left
  let top ← Px.fit? box.top
  let right ← Px.fit? box.right
  let bottom ← Px.fit? box.bottom
  Sprite.between? left top right bottom

variable {box : Box} {sprite : Sprite}

theorem box_of_sprite? (formed : box.sprite? = some sprite) : sprite.box = box := by
  obtain ⟨left, isLeft, formed⟩ := Option.bind_eq_some_iff.mp formed
  obtain ⟨top, isTop, formed⟩ := Option.bind_eq_some_iff.mp formed
  obtain ⟨right, isRight, formed⟩ := Option.bind_eq_some_iff.mp formed
  obtain ⟨bottom, isBottom, formed⟩ := Option.bind_eq_some_iff.mp formed
  obtain ⟨width, isWidth, formed⟩ := Option.bind_eq_some_iff.mp formed
  obtain ⟨height, isHeight, formed⟩ := Option.bind_eq_some_iff.mp formed
  rw [Px.fit?_eq_some_iff] at isLeft isTop isRight isBottom isWidth isHeight
  obtain ⟨rfl, rfl, rfl, rfl⟩ := Sprite.ofSize?_eq_some_iff.mp formed
  obtain ⟨boxLeft, boxTop, boxRight, boxBottom⟩ := box
  simp only [Sprite.box, mk.injEq]
  dsimp only at isLeft isTop isRight isBottom
  omega

/-- A box with pixels that lies in a sprite on the pixel range is one. -/
theorem exists_sprite? (across : box.left < box.right) (down : box.top < box.bottom)
    (near : sprite.left.val ≤ box.left ∧ sprite.top.val ≤ box.top)
    (far : box.right ≤ sprite.left.val + sprite.width.val ∧
      box.bottom ≤ sprite.top.val + sprite.height.val)
    (right : sprite.right?.isSome) (bottom : sprite.bottom?.isSome) :
    ∃ part, box.sprite? = some part ∧ part.box = box := by
  have ⟨_, _⟩ := sprite.left.inRange_val
  have ⟨_, _⟩ := sprite.top.inRange_val
  have ⟨_, _⟩ := sprite.width.inRange_val
  have ⟨_, _⟩ := sprite.height.inRange_val
  have ⟨_, _⟩ := Px.fit?_isSome_iff.mp right
  have ⟨_, _⟩ := Px.fit?_isSome_iff.mp bottom
  obtain ⟨left, formedLeft, valueLeft⟩ := Px.exists_fit? box.left ⟨by omega, by omega⟩
  obtain ⟨top, formedTop, valueTop⟩ := Px.exists_fit? box.top ⟨by omega, by omega⟩
  obtain ⟨farRight, formedRight, valueRight⟩ := Px.exists_fit? box.right ⟨by omega, by omega⟩
  obtain ⟨farBottom, formedBottom, valueBottom⟩ := Px.exists_fit? box.bottom ⟨by omega, by omega⟩
  obtain ⟨width, formedWidth, valueWidth⟩ :=
    Px.exists_fit? (farRight.val - left.val) ⟨by omega, by omega⟩
  obtain ⟨height, formedHeight, valueHeight⟩ :=
    Px.exists_fit? (farBottom.val - top.val) ⟨by omega, by omega⟩
  have formed : box.sprite? = some ⟨left, top, width, height, by omega, by omega⟩ := by
    simp only [sprite?, Sprite.between?, Option.bind_eq_bind, formedLeft, formedTop, formedRight,
      formedBottom, formedWidth, formedHeight, Option.bind_some, Sprite.ofSize?_eq_some_iff,
      and_self]
  exact ⟨_, formed, box_of_sprite? formed⟩

end Box

namespace NineSlice

variable {slice moved : NineSlice} {piece : Piece} {part : Sprite}

/-- The cuts of a nine-slice: the edges of its middle. -/
def grid (slice : NineSlice) : NineGrid where
  across := {
    start := slice.outer.left.val
    nearEnd := slice.inner.left.val
    farStart := slice.inner.left.val + slice.inner.width.val
    stop := slice.outer.left.val + slice.outer.width.val
    near_le := Int.le_of_lt slice.inside.1
    middle_le := Int.le_add_of_nonneg_right (Int.le_of_lt slice.inner.width_pos)
    far_le := Int.le_of_lt slice.inside.2.2.1 }
  down := {
    start := slice.outer.top.val
    nearEnd := slice.inner.top.val
    farStart := slice.inner.top.val + slice.inner.height.val
    stop := slice.outer.top.val + slice.outer.height.val
    near_le := Int.le_of_lt slice.inside.2.1
    middle_le := Int.le_add_of_nonneg_right (Int.le_of_lt slice.inner.height_pos)
    far_le := Int.le_of_lt slice.inside.2.2.2 }

def piece? (slice : NineSlice) : Piece → Option Sprite
  | .middle => some slice.inner
  | .corner corner => slice.corner? corner
  | .edge edge => slice.edge? edge

theorem corner?_eq (slice : NineSlice) (corner : Corner) :
    slice.corner? corner = (slice.grid.box (.corner corner)).sprite? := by
  cases corner <;>
    simp [corner?, Box.sprite?, grid, NineGrid.box, Piece.place, Cuts.lower, Cuts.upper,
      Sprite.right?, Sprite.bottom?]

theorem edge?_eq (slice : NineSlice) (edge : Edge) :
    slice.edge? edge = (slice.grid.box (.edge edge)).sprite? := by
  cases edge <;>
    simp [edge?, Box.sprite?, grid, NineGrid.box, Piece.place, Cuts.lower, Cuts.upper,
      Sprite.right?, Sprite.bottom?]

/-- Every piece of a nine-slice on the pixel range is formed, and it lies between the cuts. -/
theorem exists_piece? (right : slice.outer.right?.isSome) (bottom : slice.outer.bottom?.isSome)
    (piece : Piece) : ∃ part, slice.piece? piece = some part ∧ part.box = slice.grid.box piece := by
  have across : slice.grid.across.lower piece.place.1 < slice.grid.across.upper piece.place.1 := by
    have nearLt := slice.inside.1
    have wide := slice.inner.width_pos
    have farLt := slice.inside.2.2.1
    cases piece.place.1 <;> simp only [grid, Cuts.lower, Cuts.upper] <;> omega
  have down : slice.grid.down.lower piece.place.2 < slice.grid.down.upper piece.place.2 := by
    have nearLt := slice.inside.2.1
    have high := slice.inner.height_pos
    have farLt := slice.inside.2.2.2
    cases piece.place.2 <;> simp only [grid, Cuts.lower, Cuts.upper] <;> omega
  have formed : ∃ part, (slice.grid.box piece).sprite? = some part ∧
      part.box = slice.grid.box piece :=
    Box.exists_sprite? across down
      ⟨slice.grid.across.start_le_lower _, slice.grid.down.start_le_lower _⟩
      ⟨slice.grid.across.upper_le_stop _, slice.grid.down.upper_le_stop _⟩ right bottom
  cases piece with
  | middle => exact ⟨slice.inner, rfl, rfl⟩
  | corner corner => rwa [← corner?_eq] at formed
  | edge edge => rwa [← edge?_eq] at formed

theorem offset?_eq_some_iff {dx dy : Px} : slice.offset? dx dy = some moved ↔
    slice.outer.offset? dx dy = some moved.outer ∧
      slice.inner.offset? dx dy = some moved.inner := by
  obtain ⟨outer, inner, inside⟩ := moved
  unfold offset?
  split
  · next outerMoved innerMoved => simp [outerMoved, innerMoved]
  · next notBoth =>
    simp only [reduceCtorEq, false_iff]
    rintro ⟨outerMoved, innerMoved⟩
    exact notBoth _ _ outerMoved innerMoved

private theorem exists_offset? {dx dy : Px}
    (near : Px.InRange (slice.outer.left.val + dx.val) ∧ Px.InRange (slice.outer.top.val + dy.val))
    (far : Px.InRange (slice.outer.left.val + slice.outer.width.val + dx.val) ∧
      Px.InRange (slice.outer.top.val + slice.outer.height.val + dy.val)) :
    ∃ moved, slice.offset? dx dy = some moved := by
  have inside := slice.inside
  have wide := slice.inner.width_pos
  have high := slice.inner.height_pos
  unfold Sprite.Inside at inside
  unfold Px.InRange at near far
  obtain ⟨left, -, isLeft⟩ := Px.exists_fit? (slice.outer.left.val + dx.val) near.1
  obtain ⟨top, -, isTop⟩ := Px.exists_fit? (slice.outer.top.val + dy.val) near.2
  obtain ⟨innerLeft, -, isInnerLeft⟩ :=
    Px.exists_fit? (slice.inner.left.val + dx.val) ⟨by omega, by omega⟩
  obtain ⟨innerTop, -, isInnerTop⟩ :=
    Px.exists_fit? (slice.inner.top.val + dy.val) ⟨by omega, by omega⟩
  refine ⟨⟨{ slice.outer with left := left, top := top },
    { slice.inner with left := innerLeft, top := innerTop }, ?_⟩, ?_⟩
  · unfold Sprite.Inside
    dsimp only
    omega
  · exact offset?_eq_some_iff.mpr ⟨Sprite.offset?_eq_some_iff.mpr ⟨isLeft, isTop, rfl, rfl⟩,
      Sprite.offset?_eq_some_iff.mpr ⟨isInnerLeft, isInnerTop, rfl, rfl⟩⟩

private theorem box_of_offset? {dx dy : Px} (formed : slice.offset? dx dy = some moved)
    (piece : Piece) :
    moved.grid.box piece = (slice.grid.box piece).shift dx dy := by
  obtain ⟨outerMoved, innerMoved⟩ := offset?_eq_some_iff.mp formed
  obtain ⟨outerLeft, outerTop, outerWidth, outerHeight⟩ :=
    Sprite.offset?_eq_some_iff.mp outerMoved
  obtain ⟨innerLeft, innerTop, innerWidth, innerHeight⟩ :=
    Sprite.offset?_eq_some_iff.mp innerMoved
  rw [Px.ext_val_iff] at outerWidth outerHeight innerWidth innerHeight
  have across (third : Third) :
      moved.grid.across.lower third = slice.grid.across.lower third + dx ∧
        moved.grid.across.upper third = slice.grid.across.upper third + dx := by
    cases third <;> simp only [grid, Cuts.lower, Cuts.upper] <;> omega
  have down (third : Third) :
      moved.grid.down.lower third = slice.grid.down.lower third + dy ∧
        moved.grid.down.upper third = slice.grid.down.upper third + dy := by
    cases third <;> simp only [grid, Cuts.lower, Cuts.upper] <;> omega
  simp only [NineGrid.box, Box.shift, across, down]

/-- The nine pieces of the art have pixels and share out those of the sprite, and wherever the
sprite is moved to within the pixel range, each piece is moved with it. -/
structure Parted (slice : NineSlice) : Prop where
  pieces : ∃ parts, Piece.all.mapM slice.piece? = some parts ∧
    (∀ part ∈ parts, 0 < part.width.val ∧ 0 < part.height.val) ∧
    slice.outer.box.Partition (parts.map Sprite.box)
  moved : ∀ dx dy : Px,
    Px.InRange (slice.outer.box.shift dx dy).left → Px.InRange (slice.outer.box.shift dx dy).top →
    Px.InRange (slice.outer.box.shift dx dy).right →
    Px.InRange (slice.outer.box.shift dx dy).bottom →
    ∃ moved, slice.offset? dx dy = some moved ∧ ∀ piece, ∃ before after,
      slice.piece? piece = some before ∧ moved.piece? piece = some after ∧
        after.box = before.box.shift dx dy

private theorem parted_of_encloses (right : slice.outer.right?.isSome)
    (bottom : slice.outer.bottom?.isSome) : slice.Parted := by
  refine ⟨?_, fun dx dy left top farRight farBottom => ?_⟩
  · obtain ⟨parts, formed, -, partition⟩ := slice.grid.exists_parts (exists_piece? right bottom)
    exact ⟨parts, formed, fun part _ => ⟨part.width_pos, part.height_pos⟩, partition⟩
  · obtain ⟨moved, isMoved⟩ := exists_offset? ⟨left, top⟩ ⟨farRight, farBottom⟩
    obtain ⟨outerMoved, -⟩ := offset?_eq_some_iff.mp isMoved
    obtain ⟨isLeft, isTop, isWidth, isHeight⟩ := Sprite.offset?_eq_some_iff.mp outerMoved
    have movedRight : moved.outer.right?.isSome := by
      refine Px.fit?_isSome_iff.mpr ?_
      rw [isLeft, isWidth, Int.add_right_comm]
      exact farRight
    have movedBottom : moved.outer.bottom?.isSome := by
      refine Px.fit?_isSome_iff.mpr ?_
      rw [isTop, isHeight, Int.add_right_comm]
      exact farBottom
    refine ⟨moved, isMoved, fun piece => ?_⟩
    obtain ⟨before, isBefore, beforeBox⟩ := exists_piece? right bottom piece
    obtain ⟨after, isAfter, afterBox⟩ := exists_piece? movedRight movedBottom piece
    refine ⟨before, after, isBefore, isAfter, ?_⟩
    rw [afterBox, beforeBox, box_of_offset? isMoved]

/-- Every nine-slice that is formed cuts its sprite into nine, and a border of one thickness is
formed where it leaves something of both sides of a sprite on the pixel range. -/
theorem pieces_part_sprite :
    (∀ outer inner slice, of outer inner = .ok slice →
      slice.outer = outer ∧ slice.inner = inner ∧ slice.Parted) ∧
    (∀ outer thickness slice, uniform outer thickness = .ok slice →
      slice.outer = outer ∧ slice.Parted) ∧
    ∀ outer thickness, (∃ slice, uniform outer thickness = .ok slice) ↔
      outer.right?.isSome ∧ outer.bottom?.isSome ∧ 1 ≤ thickness.val ∧
        2 * thickness.val < outer.width.val ∧ 2 * thickness.val < outer.height.val := by
  refine ⟨?_, ?_, fun _ _ => exists_uniform_iff⟩
  · intro outer inner slice formed
    obtain ⟨rfl, isInner, encloses⟩ := of_eq_ok_iff.mp formed
    obtain ⟨-, right, bottom⟩ := Sprite.encloses?_eq_true_iff.mp encloses
    exact ⟨rfl, isInner, parted_of_encloses right bottom⟩
  · intro outer thickness slice formed
    obtain ⟨rfl, -, -, -, -, encloses⟩ := uniform_eq_ok_iff.mp formed
    obtain ⟨-, right, bottom⟩ := Sprite.encloses?_eq_true_iff.mp encloses
    exact ⟨rfl, parted_of_encloses right bottom⟩

/-- A sprite whose right edge is the last number of the range, and a border that leaves two rows and
columns of a sprite; one pixel more would leave none. -/
theorem pieces_part_sprite_farEdge :
    (∃ slice, of ⟨2147483632, 64, 15, 16, by decide, by decide⟩
        ⟨2147483634, 66, 11, 12, by decide, by decide⟩ = .ok slice ∧ slice.Parted) ∧
    (∃ slice, uniform ⟨0, 64, 16, 16, by decide, by decide⟩ 7 = .ok slice ∧
      slice.outer = ⟨0, 64, 16, 16, by decide, by decide⟩ ∧
      (∃ parts, Piece.all.mapM slice.piece? = some parts ∧
        (∀ part ∈ parts, 0 < part.width.val ∧ 0 < part.height.val) ∧
        (Box.mk 0 64 16 80).Partition (parts.map Sprite.box)) ∧
      ∃ moved, slice.offset? 0 32 = some moved ∧ ∀ piece, ∃ before after,
        slice.piece? piece = some before ∧ moved.piece? piece = some after ∧
          after.box = before.box.shift 0 32) ∧
    ¬ ∃ slice, uniform ⟨0, 64, 16, 16, by decide, by decide⟩ 8 = .ok slice := by
  refine ⟨?_, ?_, ?_⟩
  · have formed : of ⟨2147483632, 64, 15, 16, by decide, by decide⟩
        ⟨2147483634, 66, 11, 12, by decide, by decide⟩ =
          .ok ⟨⟨2147483632, 64, 15, 16, by decide, by decide⟩,
            ⟨2147483634, 66, 11, 12, by decide, by decide⟩, by decide⟩ := rfl
    exact ⟨_, formed, (pieces_part_sprite.1 _ _ _ formed).2.2⟩
  · obtain ⟨slice, formed⟩ :=
      (pieces_part_sprite.2.2 ⟨0, 64, 16, 16, by decide, by decide⟩ 7).mpr (by decide)
    obtain ⟨isOuter, pieces, moved⟩ := pieces_part_sprite.2.1 _ _ _ formed
    rw [isOuter] at pieces moved
    exact ⟨slice, formed, isOuter, pieces,
      moved 0 32 (by decide) (by decide) (by decide) (by decide)⟩
  · intro formed
    exact absurd ((pieces_part_sprite.2.2 _ _).mp formed) (by decide)

end NineSlice

end Handbook
