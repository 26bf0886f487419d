import Handbook.Px

/-!
Cutting an axis into runs of a tile. Tiles start at the pixels that agree with `phase` modulo the
tile; the runs before the first start and after the last whole tile show parts of a tile.
-/

namespace Handbook

/-- Which part of a tile a run shows. -/
inductive Span.Kind where
  /-- The end of a tile that starts outside. -/
  | leading
  /-- A whole tile. -/
  | full
  /-- The start of a tile that ends outside. -/
  | trailing
deriving DecidableEq

/-- A run of neighbouring pixels that one tile fills. -/
structure Span where
  /-- The distance from the origin of the destination. -/
  offset : Px
  length : Px
  /-- The place in the tile from which the run samples. -/
  source : Px
  kind : Span.Kind
deriving DecidableEq

namespace Span

/-- A number of whole tiles in a row; also tells where the next run would start. -/
def fulls? (tile : Px) : Nat → Px → Option (List Span × Px)
  | 0, offset => some ([], offset)
  | count + 1, offset => do
    let next ← Px.fit? (offset.val + tile.val)
    let (later, last) ← fulls? tile count next
    return (⟨offset, tile, 0, .full⟩ :: later, last)

/-- The run before the first tile that starts on the axis: the first `length` of the `lead` pixels at
the end of a tile. -/
def leading? (tile lead length : Px) : Option (List Span) :=
  if 0 < length.val then do return [⟨0, length, ← Px.fit? (tile.val - lead.val), .leading⟩]
  else some []

/-- The runs from the first tile that starts on the axis: whole tiles and the start of one more. -/
def following? (extent tile lead : Px) : Option (List Span) := do
  let rest ← Px.fit? (extent.val - lead.val)
  let (fulls, last) ← fulls? tile (rest.val / tile.val).toNat lead
  let left ← Px.fit? (rest.val % tile.val)
  return fulls ++ if 0 < left.val then [⟨last, left, 0, .trailing⟩] else []

/-- The runs of an axis with `extent` pixels, from its first pixel to its last. Without pixels on the
axis or in the tile there are none. -/
def cut? (extent tile phase : Px) : Option (List Span) :=
  if extent.val ≤ 0 || tile.val ≤ 0 then some []
  else do
    let lead ← Px.fit? (phase.val % tile.val)
    if extent.val ≤ lead.val then leading? tile lead extent
    else return (← leading? tile lead lead) ++ (← following? extent tile lead)

end Span

end Handbook
