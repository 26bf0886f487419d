import Handbook.Proofs.Binary32.Rounding
import Handbook.Proofs.Overlap
import Handbook.Tiling.Clip

namespace Handbook

variable {body visible shown : Rect} {clip : Clip} {quad : Quad} {z : Binary32}

/-- Both have the same bits. All that is not a number is one value here, but it has many forms in
bits. -/
def Binary32.SameBits (first second : Binary32) : Prop := first = second ∧ first ≠ .nan

namespace Rect

/-- The column past the last one that both rectangles have, if they have any. -/
def sharedRight (rect other : Rect) : Int :=
  min (rect.left.val + rect.width.val) (other.left.val + other.width.val)

/-- The row past the last one that both rectangles have, if they have any. -/
def sharedBottom (rect other : Rect) : Int :=
  min (rect.top.val + rect.height.val) (other.top.val + other.height.val)

/-- An overlap with a pixel reaches from the later start to the earlier end. -/
theorem edges_of_overlap? (overlaps : body.overlap? visible = some shown)
    (occupied : shown.isEmpty = false) :
    shown.left.val = max body.left.val visible.left.val ∧
      shown.top.val = max body.top.val visible.top.val ∧
      shown.left.val + shown.width.val = body.sharedRight visible ∧
      shown.top.val + shown.height.val = body.sharedBottom visible ∧
      0 < shown.width.val ∧ 0 < shown.height.val := by
  obtain ⟨left, top, width, height⟩ := extent_of_overlap? overlaps
  have wide := shown.width_nonneg
  have high := shown.height_nonneg
  simp only [isEmpty, Bool.or_eq_false_iff, beq_eq_false_iff_ne] at occupied
  rw [Px.ext_val_iff, Px.val_max] at left top
  unfold sharedColumns commonLength at width
  unfold sharedRows commonLength at height
  unfold sharedRight sharedBottom
  omega

end Rect

namespace Clip

/-- The clip shows the pixels that the image and the visible rectangle have in common, and the
columns and rows that it samples are those of the image below them. -/
structure Exact (body visible : Rect) (clip : Clip) : Prop where
  covers : ∀ x y, clip.shown.Covers x y ↔ body.Covers x y ∧ visible.Covers x y
  fromLeft : clip.fromLeft.val = clip.shown.left.val - body.left.val
  fromTop : clip.fromTop.val = clip.shown.top.val - body.top.val
  toRight : ∃ right, clip.shown.right? = some right ∧ clip.toRight.val = right.val - body.left.val
  toBottom : ∃ bottom, clip.shown.bottom? = some bottom ∧
    clip.toBottom.val = bottom.val - body.top.val
  columns : 0 ≤ clip.fromLeft.val ∧ clip.fromLeft.val < clip.toRight.val ∧
    clip.toRight.val ≤ body.width.val
  rows : 0 ≤ clip.fromTop.val ∧ clip.fromTop.val < clip.toBottom.val ∧
    clip.toBottom.val ≤ body.height.val

/-- The distances from a stretch's start to two edges inside it are formed: neither is longer than
the stretch. -/
theorem exists_distances {start length near far : Px} (starts : start.val ≤ near.val)
    (ordered : near.val < far.val) (ends : far.val ≤ start.val + length.val) :
    ∃ toNear toFar, Px.fit? (near.val - start.val) = some toNear ∧
      Px.fit? (far.val - start.val) = some toFar ∧ toNear.val = near.val - start.val ∧
      toFar.val = far.val - start.val ∧
      0 ≤ toNear.val ∧ toNear.val < toFar.val ∧ toFar.val ≤ length.val := by
  have longest := length.le_upper
  obtain ⟨toNear, fitsNear, isNear⟩ := Px.exists_fit? (near.val - start.val) ⟨by omega, by omega⟩
  obtain ⟨toFar, fitsFar, isFar⟩ := Px.exists_fit? (far.val - start.val) ⟨by omega, by omega⟩
  exact ⟨toNear, toFar, fitsNear, fitsFar, isNear, isFar, by omega, by omega, by omega⟩

/-- Whatever overlap has a pixel is clipped: its edges lie between those of the image. -/
theorem exists_of? (overlaps : body.overlap? visible = some shown)
    (occupied : shown.isEmpty = false) :
    ∃ clip, of? body visible = some (some clip) ∧ clip.shown = shown ∧ clip.Exact body visible := by
  obtain ⟨left, top, right, bottom, wide, high⟩ := Rect.edges_of_overlap? overlaps occupied
  obtain ⟨rightFits, bottomFits⟩ := Rect.onRange_of_overlap? overlaps
  obtain ⟨farColumn, isRight⟩ := Option.isSome_iff_exists.mp rightFits
  obtain ⟨farRow, isBottom⟩ := Option.isSome_iff_exists.mp bottomFits
  have columnEnd := Px.fit?_eq_some_iff.mp isRight
  have rowEnd := Px.fit?_eq_some_iff.mp isBottom
  unfold Rect.sharedRight at right
  unfold Rect.sharedBottom at bottom
  obtain ⟨fromLeft, toRight, fitsLeft, fitsRight, isFromLeft, isToRight, columns⟩ :=
    @exists_distances body.left body.width shown.left farColumn (by omega) (by omega) (by omega)
  obtain ⟨fromTop, toBottom, fitsTop, fitsBottom, isFromTop, isToBottom, rows⟩ :=
    @exists_distances body.top body.height shown.top farRow (by omega) (by omega) (by omega)
  refine ⟨⟨shown, fromLeft, fromTop, toRight, toBottom⟩, ?_, rfl, ?_⟩
  · simp [of?, overlaps, occupied, fitsLeft, fitsTop, isRight, fitsRight, isBottom, fitsBottom]
  · exact {
      covers := Rect.covers_iff_of_overlap? overlaps
      fromLeft := isFromLeft
      fromTop := isFromTop
      toRight := ⟨farColumn, isRight, isToRight⟩
      toBottom := ⟨farRow, isBottom, isToBottom⟩
      columns := columns
      rows := rows }

private theorem of?_of_isEmpty (overlaps : body.overlap? visible = some shown)
    (empty : shown.isEmpty = true) : of? body visible = some none := by
  simp [of?, overlaps, empty]

end Clip

/-- The share of a stretch that lies before an edge. -/
def shareBefore (start length : Px) (edge : Int) : Binary32 :=
  Binary32.ofInt (edge - start.val) / Binary32.ofInt length.val

theorem shareBefore_ne_nan {start length : Px} {edge : Int} (atLeast : start.val ≤ edge)
    (atMost : edge ≤ start.val + length.val) (nonzero : length.val ≠ 0) :
    shareBefore start length edge ≠ .nan := by
  have longest := length.le_upper
  obtain ⟨distance, -, isDistance⟩ :=
    Px.exists_fit? (edge - start.val) ⟨by omega, by omega⟩
  rw [shareBefore, ← isDistance]
  exact Binary32.div_ne_nan distance nonzero

namespace Quad

/-- The quad reaches from the later start of the two rectangles to the earlier end, and it samples
the image up to the share that lies before each edge. -/
structure Between (body visible : Rect) (quad : Quad) : Prop where
  left : quad.left = .ofInt (max body.left.val visible.left.val)
  top : quad.top = .ofInt (max body.top.val visible.top.val)
  right : quad.right = .ofInt (body.sharedRight visible)
  bottom : quad.bottom = .ofInt (body.sharedBottom visible)
  uLeft : quad.uLeft = shareBefore body.left body.width (max body.left.val visible.left.val)
  vTop : quad.vTop = shareBefore body.top body.height (max body.top.val visible.top.val)
  uRight : quad.uRight = shareBefore body.left body.width (body.sharedRight visible)
  vBottom : quad.vBottom = shareBefore body.top body.height (body.sharedBottom visible)
  columns : max body.left.val visible.left.val < body.sharedRight visible
  rows : max body.top.val visible.top.val < body.sharedBottom visible

private theorem exists_quad? (z : Binary32) (overlaps : body.overlap? visible = some shown)
    (occupied : shown.isEmpty = false) :
    ∃ clip quad, Clip.of? body visible = some (some clip) ∧ clip.Exact body visible ∧
      clip.quad? body z = some quad ∧ clip? body visible z = some (some quad) ∧
      quad.Between body visible := by
  obtain ⟨clip, clipped, rfl, isExact⟩ := Clip.exists_of? overlaps occupied
  obtain ⟨left, top, right, bottom, wide, high⟩ := Rect.edges_of_overlap? overlaps occupied
  obtain ⟨farColumn, isRight, toRight⟩ := isExact.toRight
  obtain ⟨farRow, isBottom, toBottom⟩ := isExact.toBottom
  have columnEnd := Px.fit?_eq_some_iff.mp isRight
  have rowEnd := Px.fit?_eq_some_iff.mp isBottom
  rw [right] at columnEnd
  rw [bottom] at rowEnd
  obtain ⟨quad, isQuad⟩ : ∃ quad, clip.quad? body z = some quad := by
    simp [Clip.quad?, over?, isRight, isBottom]
  have isClip : clip? body visible z = some (some quad) := by
    simp [clip?, clipped, isQuad]
  refine ⟨clip, quad, clipped, isExact, isQuad, isClip, ?_⟩
  simp only [Clip.quad?, over?, isRight, isBottom, Option.bind_eq_bind, Option.bind_some, pure,
    Option.some.injEq] at isQuad
  subst isQuad
  exact {
    left := by rw [← left]
    top := by rw [← top]
    right := by rw [columnEnd]
    bottom := by rw [rowEnd]
    uLeft := by rw [isExact.fromLeft, left, shareBefore]
    vTop := by rw [isExact.fromTop, top, shareBefore]
    uRight := by rw [toRight, columnEnd, shareBefore]
    vBottom := by rw [toBottom, rowEnd, shareBefore]
    columns := by omega
    rows := by omega }

/-- A quad comes of a clipping only where the rectangles share a pixel. -/
theorem between_of_clip? (drawn : clip? body visible z = some (some quad)) :
    quad.Between body visible := by
  cases overlaps : body.overlap? visible with
  | none => simp [clip?, Clip.of?, overlaps] at drawn
  | some shown =>
    cases occupied : shown.isEmpty with
    | true => simp [clip?, Clip.of?_of_isEmpty overlaps occupied] at drawn
    | false =>
      obtain ⟨-, formed, -, -, -, isFormed, between⟩ := exists_quad? z overlaps occupied
      rw [isFormed] at drawn
      cases drawn
      exact between

/-- The shares are numbers: both sides of an image that shows are longer than nothing. -/
theorem Between.ne_nan (between : quad.Between body visible) :
    quad.uLeft ≠ .nan ∧ quad.vTop ≠ .nan ∧ quad.uRight ≠ .nan ∧ quad.vBottom ≠ .nan := by
  have columns := between.columns
  have rows := between.rows
  rw [between.uLeft, between.vTop, between.uRight, between.vBottom]
  unfold Rect.sharedRight at *
  unfold Rect.sharedBottom at *
  refine ⟨shareBefore_ne_nan ?_ ?_ ?_, shareBefore_ne_nan ?_ ?_ ?_, shareBefore_ne_nan ?_ ?_ ?_,
    shareBefore_ne_nan ?_ ?_ ?_⟩ <;> omega

/-- Two quads side by side meet in one column of the screen and of the texture, and they reach over
the same rows of the texture. -/
structure SeamAcross (left right : Quad) : Prop where
  x : left.right.SameBits right.left
  u : left.uRight.SameBits right.uLeft
  vTop : left.vTop.SameBits right.vTop
  vBottom : left.vBottom.SameBits right.vBottom

/-- Two quads above each other meet in one row of the screen and of the texture, and they reach over
the same columns of the texture. -/
structure SeamDown (upper lower : Quad) : Prop where
  y : upper.bottom.SameBits lower.top
  v : upper.vBottom.SameBits lower.vTop
  uLeft : upper.uLeft.SameBits lower.uLeft
  uRight : upper.uRight.SameBits lower.uRight

end Quad

namespace Rect

/-- The rectangles stand side by side: the second starts where the first ends, in the same rows. -/
structure SideBySide (left right : Rect) : Prop where
  meet : left.right? = some right.left
  top : left.top = right.top
  height : left.height = right.height

/-- The rectangles stand above each other: the second starts where the first ends, in the same
columns. -/
structure Stacked (upper lower : Rect) : Prop where
  meet : upper.bottom? = some lower.top
  left : upper.left = lower.left
  width : upper.width = lower.width

end Rect

namespace Quad

variable {left right upper lower : Rect} {leftQuad rightQuad upperQuad lowerQuad : Quad}

theorem Between.seamAcross (leftBetween : leftQuad.Between body left)
    (rightBetween : rightQuad.Between body right) (beside : left.SideBySide right)
    (past : body.left.val < right.left.val)
    (before : right.left.val < body.left.val + body.width.val) :
    SeamAcross leftQuad rightQuad := by
  have meet := Px.fit?_eq_some_iff.mp beside.meet
  -- Inside the image both the later start and the earlier end are the seam itself.
  have fromSeam : max body.left.val right.left.val = right.left.val := by omega
  have toSeam : body.sharedRight left = right.left.val := by
    unfold Rect.sharedRight
    omega
  have sameEnd : body.sharedBottom left = body.sharedBottom right := by
    rw [Rect.sharedBottom, beside.top, beside.height, Rect.sharedBottom]
  obtain ⟨-, vTop, uRight, vBottom⟩ := leftBetween.ne_nan
  exact {
    x := ⟨by rw [leftBetween.right, rightBetween.left, toSeam, fromSeam],
      by rw [leftBetween.right]; exact Binary32.ofQuotient_ne_nan _ _ _⟩
    u := ⟨by rw [leftBetween.uRight, rightBetween.uLeft, toSeam, fromSeam], uRight⟩
    vTop := ⟨by rw [leftBetween.vTop, rightBetween.vTop, beside.top], vTop⟩
    vBottom := ⟨by rw [leftBetween.vBottom, rightBetween.vBottom, sameEnd], vBottom⟩ }

theorem Between.seamDown (upperBetween : upperQuad.Between body upper)
    (lowerBetween : lowerQuad.Between body lower) (stacked : upper.Stacked lower)
    (past : body.top.val < lower.top.val)
    (before : lower.top.val < body.top.val + body.height.val) :
    SeamDown upperQuad lowerQuad := by
  have meet := Px.fit?_eq_some_iff.mp stacked.meet
  have fromSeam : max body.top.val lower.top.val = lower.top.val := by omega
  have toSeam : body.sharedBottom upper = lower.top.val := by
    unfold Rect.sharedBottom
    omega
  have sameEnd : body.sharedRight upper = body.sharedRight lower := by
    rw [Rect.sharedRight, stacked.left, stacked.width, Rect.sharedRight]
  obtain ⟨uLeft, -, uRight, vBottom⟩ := upperBetween.ne_nan
  exact {
    y := ⟨by rw [upperBetween.bottom, lowerBetween.top, toSeam, fromSeam],
      by rw [upperBetween.bottom]; exact Binary32.ofQuotient_ne_nan _ _ _⟩
    v := ⟨by rw [upperBetween.vBottom, lowerBetween.vTop, toSeam, fromSeam], vBottom⟩
    uLeft := ⟨by rw [upperBetween.uLeft, lowerBetween.uLeft, stacked.left], uLeft⟩
    uRight := ⟨by rw [upperBetween.uRight, lowerBetween.uRight, sameEnd], uRight⟩ }

end Quad

end Handbook
