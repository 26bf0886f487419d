import Handbook.Proofs.Book.Room

namespace Handbook

/-- No edge of the rectangle lies outside the other. -/
structure Rect.Inside (rect other : Rect) : Prop where
  left : other.left.val ≤ rect.left.val
  right : rect.left.val + rect.width.val ≤ other.left.val + other.width.val
  top : other.top.val ≤ rect.top.val
  bottom : rect.top.val + rect.height.val ≤ other.top.val + other.height.val

/-- The rectangles have no pixel in common. -/
def Rect.Apart (rect other : Rect) : Prop := ∀ x y, ¬ (rect.Covers x y ∧ other.Covers x y)

namespace Viewport

variable {viewport larger : Viewport} {settings : Settings}
  {screenWidth screenHeight widerWidth tallerHeight : Px}

/-- The column of page text fills what border and slider leave, and the shadow of the separator
reaches over the rail. -/
structure Filled (viewport : Viewport) (settings : Settings) : Prop where
  visible : viewport.visible.Inside viewport.inner
  rail : viewport.rail.Inside viewport.inner
  inner : viewport.inner.Inside viewport.outer
  meets : viewport.visible.right? = some viewport.separator.left
  overlaps : ∃ right, viewport.separator.right? = some right ∧
    right.val = viewport.rail.left.val + settings.shadowThickness.val

/-- The frame lies on the screen and the column keeps off the slider; a column that is not empty
fills the page. -/
structure Nested (viewport : Viewport) (screenWidth screenHeight : Px) (settings : Settings) :
    Prop where
  onScreen : viewport.outer.Inside (Rect.ofSize 0 0 screenWidth screenHeight)
  offSeparator : viewport.visible.Apart viewport.separator
  offRail : viewport.visible.Apart viewport.rail
  filled : viewport.visible.isEmpty = false → viewport.Filled settings

/-- Six eighths of a screen, one eighth into it, end on the screen. -/
theorem inside_of_outerRect? {outer : Rect} (widthNatural : 0 ≤ screenWidth.val)
    (heightNatural : 0 ≤ screenHeight.val)
    (formed : outerRect? screenWidth screenHeight = some outer) :
    outer.Inside (Rect.ofSize 0 0 screenWidth screenHeight) := by
  obtain ⟨left, top, width, height⟩ := extent_of_outerRect? widthNatural heightNatural formed
  have near : (Rect.ofSize 0 0 screenWidth screenHeight).left.val = 0 ∧
      (Rect.ofSize 0 0 screenWidth screenHeight).top.val = 0 := ⟨rfl, rfl⟩
  constructor <;> simp only [near, Rect.val_width_ofSize, Rect.val_height_ofSize] <;> omega

section Parts

variable {inner separator rail visible : Rect}

/-- A column with a pixel ends where the separator starts, and one without a pixel meets nothing. -/
theorem apart_separator (isSeparator : separatorRect? inner settings = some separator)
    (isVisible : visibleRect? inner settings = some visible) : visible.Apart separator := by
  obtain ⟨left, -, width, -⟩ := extent_of_visibleRect? isVisible
  obtain ⟨start, -⟩ := extent_of_separatorRect? isSeparator
  rintro x y ⟨inColumn, inSeparator⟩
  unfold Rect.Covers at inColumn inSeparator
  omega

private theorem apart_rail (natural : settings.Natural)
    (isRail : railRect? inner settings = some rail)
    (isVisible : visibleRect? inner settings = some visible) : visible.Apart rail := by
  have shadow := natural.shadowThickness
  have line := natural.separatorThickness
  obtain ⟨left, -, width, -⟩ := extent_of_visibleRect? isVisible
  obtain ⟨start, -⟩ := extent_of_railRect? isRail
  rintro x y ⟨inColumn, inRail⟩
  unfold Rect.Covers at inColumn inRail
  omega

end Parts

/-- Where the column has a pixel, border, separator and slider leave something of the frame, and the
column takes it. -/
theorem filled_of_computed (positive : settings.Positive) (natural : settings.Natural)
    (widthNatural : 0 ≤ screenWidth.val) (heightNatural : 0 ≤ screenHeight.val)
    (computed : viewport.Computed screenWidth screenHeight settings)
    (occupied : viewport.visible.isEmpty = false) : viewport.Filled settings := by
  have border := positive.borderThickness
  have slider := positive.sliderWidth
  have shadow := natural.shadowThickness
  have line := natural.separatorThickness
  obtain ⟨narrow, -⟩ := (isSome_outerRect? widthNatural heightNatural).mp
    (Option.isSome_of_eq_some computed.outer)
  obtain ⟨outerLeft, outerTop, outerWidth, outerHeight⟩ :=
    extent_of_outerRect? widthNatural heightNatural computed.outer
  obtain ⟨innerLeft, innerTop, innerWidth, innerHeight⟩ := Rect.extent_of_inset? computed.inner
  obtain ⟨left, top, width, height⟩ := extent_of_visibleRect? computed.visible
  obtain ⟨railLeft, railTop, railWidth, railHeight⟩ := extent_of_railRect? computed.rail
  obtain ⟨start, -, reach, -⟩ := extent_of_separatorRect? computed.separator
  replace top := congrArg Px.val top
  replace railTop := congrArg Px.val railTop
  simp only [Rect.isEmpty, Bool.or_eq_false_iff, beq_eq_false_iff_ne] at occupied
  obtain ⟨hasColumns, hasRows⟩ := occupied
  have meets : viewport.visible.left.val + viewport.visible.width.val =
      viewport.separator.left.val := by omega
  have overlaps : viewport.separator.left.val + viewport.separator.width.val =
      viewport.rail.left.val + settings.shadowThickness.val := by omega
  -- The view never forms the far edge of the separator, so nothing yet says that it fits.
  have onScreen : Px.InRange (viewport.rail.left.val + settings.shadowThickness.val) := by
    unfold Px.InRange
    omega
  obtain ⟨right, isRight, atRight⟩ := Px.exists_fit? _ (overlaps ▸ onScreen)
  exact {
    visible := ⟨by omega, by omega, by omega, by omega⟩
    rail := ⟨by omega, by omega, by omega, by omega⟩
    inner := ⟨by omega, by omega, by omega, by omega⟩
    meets := Px.fit?_eq_some_iff.mpr meets.symm
    overlaps := ⟨right, isRight, atRight.trans overlaps⟩ }

/-- The column has what the frame's share of the screen leaves when border, shadows, slider and
line, which no screen changes, are taken from it. -/
theorem column_of_compute? (positive : settings.Positive) (natural : settings.Natural)
    (widthNatural : 0 ≤ screenWidth.val) (heightNatural : 0 ≤ screenHeight.val)
    (formed : compute? screenWidth screenHeight settings = some viewport) :
    viewport.visible.width.val =
        max (6 * screenWidth.val / 8 - 2 * settings.borderThickness.val -
          2 * settings.shadowThickness.val - settings.sliderWidth.val -
          settings.separatorThickness.val) 0 ∧
      viewport.visible.height.val =
        max (6 * screenHeight.val / 8 - 2 * settings.borderThickness.val) 0 := by
  have computed := computed_of_compute? formed
  have slider := positive.sliderWidth
  have shadow := natural.shadowThickness
  have line := natural.separatorThickness
  obtain ⟨-, -, outerWidth, outerHeight⟩ :=
    extent_of_outerRect? widthNatural heightNatural computed.outer
  obtain ⟨-, -, innerWidth, innerHeight⟩ := Rect.extent_of_inset? computed.inner
  obtain ⟨-, -, width, height⟩ := extent_of_visibleRect? computed.visible
  rw [width, innerWidth, outerWidth, height, innerHeight, outerHeight]
  omega

private theorem nested_of_compute? (positive : settings.Positive) (natural : settings.Natural)
    (widthNatural : 0 ≤ screenWidth.val) (heightNatural : 0 ≤ screenHeight.val)
    (formed : compute? screenWidth screenHeight settings = some viewport) :
    viewport.Nested screenWidth screenHeight settings := by
  have computed := computed_of_compute? formed
  exact {
    onScreen := inside_of_outerRect? widthNatural heightNatural computed.outer
    offSeparator := apart_separator computed.separator computed.visible
    offRail := apart_rail natural computed.rail computed.visible
    filled := filled_of_computed positive natural widthNatural heightNatural computed }

/-- Whatever accepted settings and whatever screen a view is formed for, its parts are nested; and a
view that is formed for a larger screen has a column that is no smaller. -/
theorem nested_and_growing (accepted : settings.check = .ok ()) (widthNatural : 0 ≤ screenWidth.val)
    (heightNatural : 0 ≤ screenHeight.val)
    (formed : compute? screenWidth screenHeight settings = some viewport) :
    viewport.Nested screenWidth screenHeight settings ∧
      ∀ widerWidth tallerHeight larger, screenWidth.val ≤ widerWidth.val →
        screenHeight.val ≤ tallerHeight.val →
        compute? widerWidth tallerHeight settings = some larger →
        viewport.visible.width.val ≤ larger.visible.width.val ∧
          viewport.visible.height.val ≤ larger.visible.height.val := by
  have positive := Settings.positive_of_check accepted
  have natural := Settings.natural_of_check accepted
  refine ⟨nested_of_compute? positive natural widthNatural heightNatural formed, ?_⟩
  intro widerWidth tallerHeight larger wider taller formedLarger
  obtain ⟨width, height⟩ :=
    column_of_compute? positive natural widthNatural heightNatural formed
  obtain ⟨largerWidth, largerHeight⟩ :=
    column_of_compute? positive natural (by omega) (by omega) formedLarger
  rw [width, height, largerWidth, largerHeight]
  omega

/-- A screen that has no room for a column, and one that has. -/
theorem nested_and_growing_standard :
    Settings.check {} = .ok () ∧ ∃ viewport larger, compute? 24 10 {} = some viewport ∧
      compute? 800 600 {} = some larger ∧ viewport.visible.isEmpty = true ∧
      viewport.Nested 24 10 {} ∧ larger.visible.isEmpty = false ∧ larger.Filled {} ∧
      viewport.visible.width.val ≤ larger.visible.width.val ∧
      viewport.visible.height.val ≤ larger.visible.height.val := by
  have small : compute? 24 10 {} = some ((compute? 24 10 {}).get (by decide)) := by decide
  have large : compute? 800 600 {} = some ((compute? 800 600 {}).get (by decide)) := by decide
  obtain ⟨nested, grows⟩ := nested_and_growing rfl (by decide) (by decide) small
  obtain ⟨largeNested, -⟩ := nested_and_growing rfl (by decide) (by decide) large
  exact ⟨rfl, _, _, small, large, by decide, nested, by decide, largeNested.filled (by decide),
    grows 800 600 _ (by decide) (by decide) large⟩

end Viewport

end Handbook
