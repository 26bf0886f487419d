import Mathlib.Tactic.SplitIfs
import Handbook.Proofs.Answers
import Handbook.Rect
import Handbook.Sheet.NineSlice

/-!
Rectangles cut into nine. Two cuts across and two cuts down part a rectangle into four corners, four
edges and a middle. Every pixel of it lies in exactly one of the nine, also where some of them hold
no pixel at all.
-/

namespace Handbook

/-- The edges of a rectangle over the integers. The far ones lie past its last pixel. -/
structure Box where
  left : Int
  top : Int
  right : Int
  bottom : Int
deriving DecidableEq

/-- The edges of a rectangle of the screen. -/
def Rect.box (rect : Rect) : Box :=
  ⟨rect.left.val, rect.top.val, rect.left.val + rect.width.val, rect.top.val + rect.height.val⟩

def Sprite.box (sprite : Sprite) : Box :=
  ⟨sprite.left.val, sprite.top.val, sprite.left.val + sprite.width.val,
    sprite.top.val + sprite.height.val⟩

namespace Box

def Covers (box : Box) (x y : Int) : Prop :=
  box.left ≤ x ∧ x < box.right ∧ box.top ≤ y ∧ y < box.bottom

instance (box : Box) (x y : Int) : Decidable (box.Covers x y) :=
  inferInstanceAs (Decidable (_ ∧ _ ∧ _ ∧ _))

def shift (box : Box) (dx dy : Int) : Box :=
  ⟨box.left + dx, box.top + dy, box.right + dx, box.bottom + dy⟩

/-- No two of the parts share a pixel, and together they hold the pixels of the whole and no other.
-/
structure Partition (whole : Box) (parts : List Box) : Prop where
  apart : parts.Pairwise fun first second => ∀ x y, ¬ (first.Covers x y ∧ second.Covers x y)
  union : ∀ x y, whole.Covers x y ↔ ∃ part ∈ parts, part.Covers x y

/-- A pixel of the whole lies in one of the parts, and any other pixel in none. -/
theorem Partition.countP {whole : Box} {parts : List Box} (partition : whole.Partition parts)
    (x y : Int) : parts.countP (fun part => decide (part.Covers x y)) =
      if whole.Covers x y then 1 else 0 := by
  by_cases inside : whole.Covers x y
  · rw [if_pos inside]
    exact countP_eq_one_of_pairwise partition.apart ((partition.union x y).mp inside)
      fun first second apart => apart x y
  · rw [if_neg inside]
    apply List.countP_eq_zero.mpr
    intro part member covers
    exact inside ((partition.union x y).mpr ⟨part, member, of_decide_eq_true covers⟩)

end Box

/-- The part of an axis before both cuts, between them or after both. -/
inductive Third where
  | near
  | middle
  | far
deriving DecidableEq

/-- A stretch of an axis and two cuts of it, in their order. -/
structure Cuts where
  start : Int
  nearEnd : Int
  farStart : Int
  stop : Int
  near_le : start ≤ nearEnd
  middle_le : nearEnd ≤ farStart
  far_le : farStart ≤ stop

namespace Cuts

/-- Where a third starts. -/
def lower (cuts : Cuts) : Third → Int
  | .near => cuts.start
  | .middle => cuts.nearEnd
  | .far => cuts.farStart

/-- Where a third ends. -/
def upper (cuts : Cuts) : Third → Int
  | .near => cuts.nearEnd
  | .middle => cuts.farStart
  | .far => cuts.stop

/-- The third that a place of the axis lies in. -/
def thirdAt (cuts : Cuts) (place : Int) : Third :=
  if place < cuts.nearEnd then .near else if place < cuts.farStart then .middle else .far

theorem start_le_lower (cuts : Cuts) (third : Third) : cuts.start ≤ cuts.lower third := by
  have nearLe := cuts.near_le
  have middleLe := cuts.middle_le
  cases third <;> simp only [lower] <;> omega

theorem upper_le_stop (cuts : Cuts) (third : Third) : cuts.upper third ≤ cuts.stop := by
  have middleLe := cuts.middle_le
  have farLe := cuts.far_le
  cases third <;> simp only [upper] <;> omega

theorem between_iff (cuts : Cuts) (third : Third) (place : Int) :
    cuts.lower third ≤ place ∧ place < cuts.upper third ↔
      (cuts.start ≤ place ∧ place < cuts.stop) ∧ cuts.thirdAt place = third := by
  have nearLe := cuts.near_le
  have middleLe := cuts.middle_le
  have farLe := cuts.far_le
  unfold thirdAt
  split_ifs with inNear inMiddle
  all_goals
    cases third <;>
      simp only [lower, upper, reduceCtorEq, and_true, and_false, iff_false] <;> omega

end Cuts

/-- A piece of a rectangle that is cut into nine. -/
inductive Piece where
  | middle
  | corner (corner : Corner)
  | edge (edge : Edge)
deriving DecidableEq

namespace Piece

def all : List Piece := [.middle] ++ Corner.all.map .corner ++ Edge.all.map .edge

/-- The third across and the third down that meet in the piece. -/
def place : Piece → Third × Third
  | .middle => (.middle, .middle)
  | .corner .topLeft => (.near, .near)
  | .corner .topRight => (.far, .near)
  | .corner .bottomLeft => (.near, .far)
  | .corner .bottomRight => (.far, .far)
  | .edge .top => (.middle, .near)
  | .edge .bottom => (.middle, .far)
  | .edge .left => (.near, .middle)
  | .edge .right => (.far, .middle)

private theorem pairwise_places : all.Pairwise fun first second => first.place ≠ second.place := by
  decide

private theorem exists_place (across down : Third) :
    ∃ piece ∈ all, (across, down) = piece.place := by
  cases across <;> cases down <;> decide

end Piece

/-- Two cuts across a rectangle and two cuts down it. -/
structure NineGrid where
  across : Cuts
  down : Cuts

namespace NineGrid

def whole (grid : NineGrid) : Box :=
  ⟨grid.across.start, grid.down.start, grid.across.stop, grid.down.stop⟩

def box (grid : NineGrid) (piece : Piece) : Box :=
  ⟨grid.across.lower piece.place.1, grid.down.lower piece.place.2,
    grid.across.upper piece.place.1, grid.down.upper piece.place.2⟩

theorem covers_box_iff (grid : NineGrid) (piece : Piece) (x y : Int) :
    (grid.box piece).Covers x y ↔ grid.whole.Covers x y ∧
      (grid.across.thirdAt x, grid.down.thirdAt y) = piece.place := by
  have across := grid.across.between_iff piece.place.1 x
  have down := grid.down.between_iff piece.place.2 y
  rw [Prod.ext_iff]
  simp only [Box.Covers, box, whole]
  tauto

theorem partition (grid : NineGrid) : grid.whole.Partition (Piece.all.map grid.box) where
  apart := by
    apply List.pairwise_map.mpr
    apply Piece.pairwise_places.imp
    intro first second different x y both
    obtain ⟨-, isFirst⟩ := (grid.covers_box_iff first x y).mp both.1
    obtain ⟨-, isSecond⟩ := (grid.covers_box_iff second x y).mp both.2
    exact different (isFirst.symm.trans isSecond)
  union x y := by
    constructor
    · intro inside
      obtain ⟨piece, member, isPlace⟩ :=
        Piece.exists_place (grid.across.thirdAt x) (grid.down.thirdAt y)
      exact ⟨grid.box piece, List.mem_map_of_mem member,
        (grid.covers_box_iff piece x y).mpr ⟨inside, isPlace⟩⟩
    · rintro ⟨part, member, covers⟩
      obtain ⟨piece, -, rfl⟩ := List.mem_map.mp member
      exact ((grid.covers_box_iff piece x y).mp covers).1

theorem exists_parts {Part : Type} {boxOf : Part → Box} {form : Piece → Option Part}
    (grid : NineGrid) (every : ∀ piece, ∃ part, form piece = some part ∧
      boxOf part = grid.box piece) :
    ∃ parts, Piece.all.mapM form = some parts ∧
      List.Forall₂ (fun piece part => boxOf part = grid.box piece) Piece.all parts ∧
      grid.whole.Partition (parts.map boxOf) := by
  obtain ⟨parts, formed, boxes⟩ := exists_mapM_eq_some fun piece (_ : piece ∈ Piece.all) =>
    every piece
  refine ⟨parts, formed, boxes, ?_⟩
  have same : Piece.all.map grid.box = parts.map boxOf := by
    rw [← List.forall₂_eq_eq_eq, List.forall₂_map_left_iff, List.forall₂_map_right_iff]
    exact boxes.imp fun piece part isBox => isBox.symm
  rw [← same]
  exact grid.partition

end NineGrid

end Handbook
