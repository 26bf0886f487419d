import Handbook.Book.Slider
import Handbook.Page.Basic
import Handbook.Proofs.Binary32.Shares
import Handbook.Proofs.Book.Nesting

namespace Handbook

namespace Page

open Binary32

attribute [local instance] natPower

variable {page : Page} {viewHeight range : Px}

/-- How many units of progress a request sets. -/
def unitsFor (requested : Binary32) : Nat :=
  match requested.place? with
  | none => 0
  | some place => (max 0 (min place oneUnits)).toNat

theorem isShare_progressFor (requested : Binary32) :
    IsShare (progressFor requested) (unitsFor requested) := by
  cases requested with
  | nan =>
    show IsShare 0 0
    exact .none false
  | infinity negative => exact isShare_clampUnit rfl
  | finite negative units representable => exact isShare_clampUnit rfl

private theorem unitsFor_eq {requested : Binary32} {place : Int}
    (isPlace : requested.place? = some place) :
    unitsFor requested = (max 0 (min place oneUnits)).toNat := by
  rw [unitsFor, isPlace]

theorem unitsFor_mono {lower higher : Binary32} (ordered : lower.NotAfter higher) :
    unitsFor lower ≤ unitsFor higher := by
  obtain ⟨before, after, isBefore, isAfter, notAfter⟩ := notAfter_iff.mp ordered
  rw [unitsFor_eq isBefore, unitsFor_eq isAfter]
  omega

private theorem unitsFor_eq_zero {requested : Binary32}
    (low : requested = .nan ∨ requested.NotAfter 0) :
    unitsFor requested = 0 := by
  rcases low with rfl | low
  · rfl
  · have zero : unitsFor 0 = 0 := by decide
    exact Nat.le_zero.mp (zero ▸ unitsFor_mono low)

private theorem unitsFor_eq_oneUnits {requested : Binary32} (high : NotAfter 1 requested) :
    unitsFor requested = oneUnits := by
  have one : unitsFor 1 = oneUnits := by decide
  have atLeast := unitsFor_mono high
  have atMost := (isShare_progressFor requested).le_oneUnits
  omega

private theorem exists_natCast_of_scrollRange?
    (isRange : page.scrollRange? viewHeight = some range) :
    ∃ number : Nat, range.val = number := by
  obtain ⟨hidden, -, isRange⟩ := Option.bind_eq_some_iff.mp isRange
  have natural : 0 ≤ range.val := by
    rw [← Option.some.inj isRange, Px.val_max, Px.val_zero]
    omega
  exact Int.eq_ofNat_of_zero_le natural

/-- Over a range of at most `2 ^ 24` pixels a request never scrolls out of the range. It scrolls
nowhere for a progress up to zero and for what is not a number, over all of the range for a progress
from one on, and never less far for a progress that is further. -/
theorem scroll_in_range (isRange : page.scrollRange? viewHeight = some range)
    (short : range.val ≤ 16777216) :
    ∃ scroll : Binary32 → Px,
      (∀ requested, (page.setProgress requested).updateScroll? viewHeight =
        some { page.setProgress requested with scroll := scroll requested }) ∧
      (∀ requested, 0 ≤ (scroll requested).val ∧ (scroll requested).val ≤ range.val) ∧
      (∀ requested, requested = .nan ∨ requested.NotAfter 0 → scroll requested = 0) ∧
      (∀ requested, NotAfter 1 requested → scroll requested = range) ∧
      ∀ lower higher, lower.NotAfter higher → (scroll lower).val ≤ (scroll higher).val := by
  obtain ⟨number, isNumber⟩ := exists_natCast_of_scrollRange? isRange
  have shortNumber : number ≤ 2 ^ (24 : Nat) := by omega
  have pixels (requested : Binary32) :
      (scrollFor (progressFor requested) range).val = pixelsOf (unitsFor requested) number := by
    rw [scrollFor, isNumber]
    exact (isShare_progressFor requested).round_mul shortNumber
  refine ⟨fun requested => scrollFor (progressFor requested) range, ?_, ?_, ?_, ?_, ?_⟩
  · intro requested
    have same : (page.setProgress requested).scrollRange? viewHeight = some range := isRange
    rw [updateScroll?, same]
    rfl
  · intro requested
    have within := pixelsOf_le shortNumber (isShare_progressFor requested).le_oneUnits
    rw [pixels, isNumber]
    omega
  · intro requested low
    apply Px.ext
    rw [pixels, unitsFor_eq_zero low, pixelsOf_zero]
    rfl
  · intro requested high
    apply Px.ext
    rw [pixels, unitsFor_eq_oneUnits high, pixelsOf_oneUnits shortNumber, isNumber]
  · intro lower higher ordered
    rw [pixels, pixels]
    exact Int.ofNat_le.mpr (pixelsOf_mono number (unitsFor_mono ordered))

/-- A page over the widest range, asked for the top, for more than all of it and for two progresses
next to each other. -/
theorem scroll_in_range_widest :
    ∃ page : Page, page.scrollRange? 100 = some 16777216 ∧ ∃ top bottom less more,
      (page.setProgress .nan).updateScroll? 100 = some top ∧ top.scroll = 0 ∧
      (page.setProgress 2).updateScroll? 100 = some bottom ∧ bottom.scroll = 16777216 ∧
      (page.setProgress (.ofRatio 1 3)).updateScroll? 100 = some less ∧
      (page.setProgress (.ofRatio 1 2)).updateScroll? 100 = some more ∧
      0 ≤ less.scroll.val ∧ less.scroll.val ≤ more.scroll.val ∧ more.scroll.val ≤ 16777216 := by
  let page : Page := { path := "/long.md", title := "long", flow := { height := 16777316 } }
  have isRange : page.scrollRange? 100 = some 16777216 := by decide
  obtain ⟨scroll, scrolled, within, none, all, ordered⟩ := scroll_in_range isRange (by decide)
  have less : (Binary32.ofRatio 1 3).NotAfter (.ofRatio 1 2) := .inl (by decide)
  exact ⟨page, isRange, _, _, _, _, scrolled .nan, none .nan (.inl rfl), scrolled 2,
    all 2 (.inl (by decide)), scrolled _, scrolled _, (within _).1, ordered _ _ less, (within _).2⟩

end Page

namespace Slider

open Binary32

attribute [local instance] natPower

variable {rail : Rect} {thumbHeight y : Px} {progress : Binary32}

/-- Both heights are natural numbers, so the way that is left to the thumb is formed. -/
theorem exists_way (rail : Rect) (positive : 0 < thumbHeight.val) :
    ∃ way, Px.fit? (rail.height.val - thumbHeight.val) = some way ∧
      way.val = rail.height.val - thumbHeight.val := by
  have natural := rail.height_nonneg
  have high := rail.height.le_upper
  have tall := thumbHeight.le_upper
  exact Px.exists_fit? _ ⟨by omega, by omega⟩

/-- A thumb that has moved no further than its way lies on the rail, as high as it is asked to be as
far as the rail has room for it. -/
theorem exists_thumb? (positive : 0 < thumbHeight.val) (onRange : rail.bottom?.isSome)
    {travel moved : Nat} (isTravel : (travel : Int) = max (rail.height.val - thumbHeight.val) 0)
    (isMoved : (progress.clampUnit * ofInt travel).round.val = moved) (within : moved ≤ travel) :
    ∃ thumb, thumb? rail thumbHeight progress = some thumb ∧ thumb.left = rail.left ∧
      thumb.top.val = rail.top.val + moved ∧ thumb.width = rail.width ∧
      thumb.height.val = min thumbHeight.val rail.height.val := by
  have natural := rail.height_nonneg
  have low := rail.top.lower_le
  obtain ⟨-, bottom⟩ := Px.fit?_isSome_iff.mp onRange
  obtain ⟨way, isWay, atWay⟩ := exists_way rail positive
  obtain ⟨top, isTop, atTop⟩ := Px.exists_fit? (rail.top.val + moved) ⟨by omega, by omega⟩
  have travelled : (max way 0).val = travel := by
    rw [Px.val_max, Px.val_zero, atWay, isTravel]
  refine ⟨Rect.ofSize rail.left top rail.width (min thumbHeight rail.height), ?_, rfl, atTop,
    Px.ext ?_, ?_⟩
  · rw [thumb?, isWay]
    show (Px.fit? (rail.top.val +
      (progress.clampUnit * ofInt (max way 0).val).round.val)).bind _ = _
    rw [travelled, isMoved, isTop]
    rfl
  · rw [Rect.val_width_ofSize, Int.max_eq_left rail.width_nonneg]
  · rw [Rect.val_height_ofSize, Px.val_min]
    omega

/-- Whatever the progress, a thumb moves over a part of its way. -/
theorem exists_moved (progress : Binary32) {travel : Nat} (short : travel ≤ 2 ^ (24 : Nat)) :
    ∃ moved : Nat, (progress.clampUnit * ofInt travel).round.val = moved ∧ moved ≤ travel := by
  cases isPlace : progress.place? with
  | none =>
    cases progress with
    | nan => exact ⟨0, rfl, Nat.zero_le _⟩
    | infinity negative => cases isPlace
    | finite negative units representable => cases isPlace
  | some place =>
    have share := isShare_clampUnit isPlace
    exact ⟨_, share.round_mul short, pixelsOf_le short share.le_oneUnits⟩

private theorem exists_travel (rail : Rect) (thumbHeight : Px) :
    ∃ travel : Nat, (travel : Int) = max (rail.height.val - thumbHeight.val) 0 := by
  obtain ⟨travel, isTravel⟩ :=
    Int.eq_ofNat_of_zero_le (Int.le_max_right (rail.height.val - thumbHeight.val) 0)
  exact ⟨travel, isTravel.symm⟩

private theorem exists_progress? (positive : 0 < thumbHeight.val) {travel : Nat}
    (isTravel : (travel : Int) = rail.height.val - thumbHeight.val) (moves : 0 < travel)
    (below : Px.InRange (y.val - rail.top.val))
    (reached : Px.InRange (y.val - rail.top.val - thumbHeight.val / 2)) :
    ∃ top : Px, top.val = y.val - rail.top.val - thumbHeight.val / 2 ∧
      progress? rail thumbHeight y = some (ofInt top.val / ofInt travel).clampUnit := by
  have half : (thumbHeight.quotient 2).val = thumbHeight.val / 2 := by
    rw [Px.val_quotient]
    exact Int.tdiv_eq_ediv_of_nonneg (by omega)
  obtain ⟨way, isWay, atWay⟩ := exists_way rail positive
  obtain ⟨cursor, isCursor, atCursor⟩ := Px.exists_fit? _ below
  obtain ⟨top, isTop, atTop⟩ := Px.exists_fit? _ reached
  refine ⟨top, atTop, ?_⟩
  rw [progress?, isWay]
  show (if way.val ≤ 0 then some 0 else (Px.fit? (y.val - rail.top.val)).bind fun below =>
    (Px.fit? (below.val - (thumbHeight.quotient 2).val)).bind fun top =>
      some (ofInt top.val / ofInt way.val).clampUnit) = _
  rw [if_neg (by omega), isCursor, Option.bind_some, half, atCursor, isTop, Option.bind_some, atWay,
    isTravel]

/-- A thumb that is dragged stands with its middle at the cursor, as far as the rail allows, if its
way is shorter than `2 ^ 22` pixels. Wherever a progress puts it, it lies on the rail, if its way is
no longer than `2 ^ 24` pixels. -/
theorem thumb_follows_cursor (positive : 0 < thumbHeight.val) (onRange : rail.bottom?.isSome)
    (short : rail.height.val - thumbHeight.val ≤ 16777216) :
    (0 < rail.height.val - thumbHeight.val → rail.height.val - thumbHeight.val ≤ 4194303 →
      ∀ y : Px, Px.InRange (y.val - rail.top.val) →
        Px.InRange (y.val - rail.top.val - thumbHeight.val / 2) →
        ∃ progress thumb, progress? rail thumbHeight y = some progress ∧
          thumb? rail thumbHeight progress = some thumb ∧
          thumb.top.val = max rail.top.val
            (min (y.val - thumbHeight.val / 2)
              (rail.top.val + rail.height.val - thumbHeight.val))) ∧
      ∀ progress, ∃ thumb, thumb? rail thumbHeight progress = some thumb ∧ thumb.Inside rail := by
  obtain ⟨travel, isTravel⟩ := exists_travel rail thumbHeight
  constructor
  · intro moves recovers y below reached
    have way : (travel : Int) = rail.height.val - thumbHeight.val := by omega
    have stands : rail.top.val + max 0 (min (y.val - rail.top.val - thumbHeight.val / 2) travel) =
        max rail.top.val (min (y.val - thumbHeight.val / 2)
          (rail.top.val + rail.height.val - thumbHeight.val)) := by
      omega
    obtain ⟨top, isTop, isProgress⟩ := exists_progress? positive way (by omega) below reached
    obtain ⟨units, share, pixels⟩ := exists_isShare_quotient top (by omega : 0 < travel) (by omega)
    have moved : ((ofInt top.val / ofInt travel).clampUnit.clampUnit * ofInt travel).round.val =
        pixelsOf units travel := by
      rw [clampUnit_clampUnit]
      exact share.round_mul (by omega)
    obtain ⟨thumb, formed, -, atTop, -⟩ := exists_thumb? positive onRange isTravel moved
      (pixelsOf_le (by omega) share.le_oneUnits)
    exact ⟨_, thumb, isProgress, formed, by rw [atTop, pixels, isTop, stands]⟩
  · intro progress
    obtain ⟨moved, isMoved, within⟩ := exists_moved progress (by omega : travel ≤ 2 ^ (24 : Nat))
    obtain ⟨thumb, formed, left, top, width, height⟩ :=
      exists_thumb? positive onRange isTravel isMoved within
    have natural := rail.height_nonneg
    exact ⟨thumb, formed, Int.le_of_eq (by rw [left]), Int.le_of_eq (by rw [left, width]),
      by omega, by omega⟩

/-- A rail with the longest way for a thumb of 15 pixels, dragged to the last row before its end. -/
theorem thumb_follows_cursor_longWay :
    0 < (15 : Px).val ∧ (Rect.ofSize 672 91 12 4194318).bottom?.isSome ∧
      ∃ progress thumb lost, progress? (Rect.ofSize 672 91 12 4194318) 15 4194400 = some progress ∧
        thumb? (Rect.ofSize 672 91 12 4194318) 15 progress = some thumb ∧
        thumb.top.val = 4194393 ∧
        thumb? (Rect.ofSize 672 91 12 4194318) 15 .nan = some lost ∧
        lost.Inside (Rect.ofSize 672 91 12 4194318) := by
  have positive : 0 < (15 : Px).val := by decide
  have onRange : (Rect.ofSize 672 91 12 4194318).bottom?.isSome := by decide
  obtain ⟨follows, inside⟩ := thumb_follows_cursor positive onRange (by decide)
  obtain ⟨progress, thumb, isProgress, formed, stands⟩ :=
    follows (by decide) (by decide) 4194400 (by decide) (by decide)
  obtain ⟨lost, isLost, within⟩ := inside .nan
  exact ⟨positive, onRange, progress, thumb, lost, isProgress, formed, stands, isLost, within⟩

end Slider

end Handbook
