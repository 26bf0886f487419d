import Handbook.Book.Viewport
import Handbook.Fault
import Handbook.Proofs.Rect

namespace Handbook

theorem Px.val_wrap_of_lt {count : Nat} (few : count < 2147483648) :
    (wrap count).val = count := by
  apply wrap_of_inRange
  unfold InRange
  omega

/-- The sizes that have to be positive are. -/
structure Settings.Positive (settings : Settings) : Prop where
  borderThickness : 0 < settings.borderThickness.val
  sliderWidth : 0 < settings.sliderWidth.val
  sliderHeight : 0 < settings.sliderHeight.val
  tabWidth : 0 < settings.tabWidth.val
  tabHeight : 0 < settings.tabHeight.val
  fullTabHeight : 0 < settings.fullTabHeight.val

theorem Settings.problem?_of_check {settings : Settings} (accepted : settings.check = .ok ()) :
    settings.problem? = none := by
  unfold check at accepted
  split at accepted
  · cases accepted
  · assumption

theorem Settings.positive_of_check {settings : Settings} (accepted : settings.check = .ok ()) :
    settings.Positive := by
  have sound := problem?_of_check accepted
  unfold problem? at sound
  split at sound
  · cases sound
  · split at sound
    · cases sound
    · next allPositive =>
      rw [List.find?_eq_none] at allPositive
      simp only [positiveSizes, List.forall_mem_cons, decide_eq_true_eq, Int.not_le] at allPositive
      obtain ⟨border, sliderWidth, sliderHeight, tabWidth, tabHeight, fullTabHeight, -⟩ :=
        allPositive
      exact ⟨border, sliderWidth, sliderHeight, tabWidth, tabHeight, fullTabHeight⟩

namespace Viewport

variable {viewport : Viewport} {settings : Settings} {screenWidth screenHeight x left : Px}
  {rect part : Rect} {active : Bool} {count index : Nat}

/-- Each part of the view is placed by its own rule. -/
structure Computed (viewport : Viewport) (screenWidth screenHeight : Px) (settings : Settings) :
    Prop where
  outer : outerRect? screenWidth screenHeight = some viewport.outer
  inner : viewport.outer.inset? settings.borderThickness = some viewport.inner
  separator : separatorRect? viewport.inner settings = some viewport.separator
  rail : railRect? viewport.inner settings = some viewport.rail
  visible : visibleRect? viewport.inner settings = some viewport.visible
  homeButton : homeRect? viewport.outer settings = some viewport.homeButton
  tabOrigin : tabOrigin? viewport.outer settings = some viewport.tabOrigin
  rest : viewport = { viewport with
    screenWidth, screenHeight
    tabWidth := settings.tabWidth
    tabHeight := settings.tabHeight
    fullTabHeight := settings.fullTabHeight }

theorem computed_of_compute?
    (formed : compute? screenWidth screenHeight settings = some viewport) :
    viewport.Computed screenWidth screenHeight settings := by
  obtain ⟨outer, isOuter, formed⟩ := Option.bind_eq_some_iff.mp formed
  obtain ⟨inner, isInner, formed⟩ := Option.bind_eq_some_iff.mp formed
  obtain ⟨separator, isSeparator, formed⟩ := Option.bind_eq_some_iff.mp formed
  obtain ⟨rail, isRail, formed⟩ := Option.bind_eq_some_iff.mp formed
  obtain ⟨visible, isVisible, formed⟩ := Option.bind_eq_some_iff.mp formed
  obtain ⟨homeButton, isHome, formed⟩ := Option.bind_eq_some_iff.mp formed
  obtain ⟨tabOrigin, isOrigin, formed⟩ := Option.bind_eq_some_iff.mp formed
  cases formed
  exact ⟨isOuter, isInner, isSeparator, isRail, isVisible, isHome, isOrigin, rfl⟩

/-- The column keeps a shadow from the left border, and on its right a shadow, the line and the rail
take their share of it. -/
theorem extent_of_visibleRect? (formed : visibleRect? rect settings = some part) :
    part.left.val = rect.left.val + settings.shadowThickness.val ∧ part.top = rect.top ∧
      part.width.val = max (rect.width.val - 2 * settings.shadowThickness.val -
        settings.sliderWidth.val - settings.separatorThickness.val) 0 ∧
      part.height.val = rect.height.val := by
  obtain ⟨left, isLeft, formed⟩ := Option.bind_eq_some_iff.mp formed
  obtain ⟨shadows, isShadows, formed⟩ := Option.bind_eq_some_iff.mp formed
  obtain ⟨unshaded, isUnshaded, formed⟩ := Option.bind_eq_some_iff.mp formed
  obtain ⟨beforeRail, isBeforeRail, formed⟩ := Option.bind_eq_some_iff.mp formed
  obtain ⟨width, isWidth, formed⟩ := Option.bind_eq_some_iff.mp formed
  cases formed
  refine ⟨Px.fit?_eq_some_iff.mp isLeft, rfl, ?_, ?_⟩
  · rw [Rect.val_width_ofSize, Px.fit?_eq_some_iff.mp isWidth, Px.fit?_eq_some_iff.mp isBeforeRail,
      Px.fit?_eq_some_iff.mp isUnshaded, Px.fit?_eq_some_iff.mp isShadows]
  · rw [Rect.val_height_ofSize, Int.max_eq_left rect.height_nonneg]

theorem extent_of_railRect? (formed : railRect? rect settings = some part) :
    part.left.val = rect.left.val + rect.width.val - settings.sliderWidth.val ∧
      part.top = rect.top ∧ part.width.val = max settings.sliderWidth.val 0 ∧
      part.height.val = rect.height.val := by
  obtain ⟨right, isRight, formed⟩ := Option.bind_eq_some_iff.mp formed
  obtain ⟨left, isLeft, formed⟩ := Option.bind_eq_some_iff.mp formed
  cases formed
  refine ⟨?_, rfl, Rect.val_width_ofSize _ _ _ _, ?_⟩
  · rw [← Px.fit?_eq_some_iff.mp isRight]
    exact Px.fit?_eq_some_iff.mp isLeft
  · rw [Rect.val_height_ofSize, Int.max_eq_left rect.height_nonneg]

/-- The separator reaches one shadow to each side of its line, on the right over the rail. -/
theorem extent_of_separatorRect? (formed : separatorRect? rect settings = some part) :
    part.left.val = rect.left.val + rect.width.val - settings.sliderWidth.val -
        settings.separatorThickness.val - settings.shadowThickness.val ∧
      part.top = rect.top ∧
      part.width.val =
        max (2 * settings.shadowThickness.val + settings.separatorThickness.val) 0 ∧
      part.height.val = rect.height.val := by
  obtain ⟨right, isRight, formed⟩ := Option.bind_eq_some_iff.mp formed
  obtain ⟨beforeRail, isBeforeRail, formed⟩ := Option.bind_eq_some_iff.mp formed
  obtain ⟨beforeLine, isBeforeLine, formed⟩ := Option.bind_eq_some_iff.mp formed
  obtain ⟨left, isLeft, formed⟩ := Option.bind_eq_some_iff.mp formed
  obtain ⟨shadows, isShadows, formed⟩ := Option.bind_eq_some_iff.mp formed
  obtain ⟨width, isWidth, formed⟩ := Option.bind_eq_some_iff.mp formed
  cases formed
  refine ⟨?_, rfl, ?_, ?_⟩
  · rw [← Px.fit?_eq_some_iff.mp isRight, ← Px.fit?_eq_some_iff.mp isBeforeRail,
      ← Px.fit?_eq_some_iff.mp isBeforeLine]
    exact Px.fit?_eq_some_iff.mp isLeft
  · rw [Rect.val_width_ofSize, Px.fit?_eq_some_iff.mp isWidth, Px.fit?_eq_some_iff.mp isShadows]
  · rw [Rect.val_height_ofSize, Int.max_eq_left rect.height_nonneg]

/-- The column has the rows that the border of the frame leaves. -/
theorem rows_of_compute? (formed : compute? screenWidth screenHeight settings = some viewport) :
    viewport.visible.top.val = viewport.outer.top.val + settings.borderThickness.val ∧
      viewport.visible.height.val =
        max (viewport.outer.height.val - 2 * settings.borderThickness.val) 0 := by
  have computed := computed_of_compute? formed
  obtain ⟨-, innerTop, -, innerHeight⟩ := Rect.extent_of_inset? computed.inner
  obtain ⟨-, top, -, height⟩ := extent_of_visibleRect? computed.visible
  rw [top, height]
  exact ⟨innerTop, innerHeight⟩

/-- How the parts around the top of the frame hang on it: the strip is measured from the right end of
the frame, and the rail starts below its border. -/
structure Anchored (viewport : Viewport) (settings : Settings) : Prop where
  tabWidth : viewport.tabWidth = settings.tabWidth
  tabHeight : viewport.tabHeight = settings.tabHeight
  fullTabHeight : viewport.fullTabHeight = settings.fullTabHeight
  rightInRange : Px.InRange (viewport.outer.left.val + viewport.outer.width.val)
  origin : viewport.tabOrigin.val =
    viewport.outer.left.val + viewport.outer.width.val - 2 - 2 * settings.tabWidth.val
  home : ∃ left top,
    viewport.homeButton = Rect.ofSize left top settings.tabWidth settings.fullTabHeight ∧
    left.val = viewport.outer.left.val + viewport.outer.width.val - settings.tabWidth.val ∧
    top.val = viewport.outer.top.val - settings.tabHeight.val
  railTop : viewport.rail.top.val = viewport.outer.top.val + settings.borderThickness.val

theorem anchored_of_compute? (formed : compute? screenWidth screenHeight settings = some viewport) :
    viewport.Anchored settings := by
  have computed := computed_of_compute? formed
  obtain ⟨right, isRight, isHome⟩ := Option.bind_eq_some_iff.mp computed.homeButton
  obtain ⟨left, isLeft, isHome⟩ := Option.bind_eq_some_iff.mp isHome
  obtain ⟨top, isTop, isHome⟩ := Option.bind_eq_some_iff.mp isHome
  obtain ⟨sameRight, isSame, isOrigin⟩ := Option.bind_eq_some_iff.mp computed.tabOrigin
  cases isRight.symm.trans isSame
  obtain ⟨inside, isInside, isOrigin⟩ := Option.bind_eq_some_iff.mp isOrigin
  obtain ⟨slots, isSlots, isOrigin⟩ := Option.bind_eq_some_iff.mp isOrigin
  obtain ⟨-, railTop, -⟩ := extent_of_railRect? computed.rail
  obtain ⟨-, innerTop, -⟩ := Rect.extent_of_inset? computed.inner
  have atRight := Px.fit?_eq_some_iff.mp isRight
  have margin : stripMargin.val = 2 := rfl
  refine ⟨congrArg Viewport.tabWidth computed.rest, congrArg Viewport.tabHeight computed.rest,
    congrArg Viewport.fullTabHeight computed.rest, ?_, ?_,
    ⟨left, top, (Option.some.inj isHome).symm, ?_, Px.fit?_eq_some_iff.mp isTop⟩, ?_⟩
  · rw [← atRight]
    exact right.inRange_val
  · rw [Px.fit?_eq_some_iff.mp isOrigin, Px.fit?_eq_some_iff.mp isInside,
      Px.fit?_eq_some_iff.mp isSlots, margin, atRight]
  · rw [Px.fit?_eq_some_iff.mp isLeft, atRight]
  · rw [railTop]
    exact innerTop

theorem place_of_tabPlace? (anchored : viewport.Anchored settings) (few : index < 2147483648)
    (placed : viewport.tabPlace? index = some left) :
    left.val = viewport.outer.left.val + viewport.outer.width.val - 2 -
      (index + 2) * settings.tabWidth.val := by
  unfold tabPlace? at placed
  obtain ⟨distance, isDistance, placed⟩ := Option.bind_eq_some_iff.mp placed
  rw [Px.fit?_eq_some_iff.mp placed, Px.fit?_eq_some_iff.mp isDistance, anchored.origin,
    Px.val_wrap_of_lt few, anchored.tabWidth, Int.add_mul]
  omega

theorem stands_of_tabRect? (anchored : viewport.Anchored settings)
    (positive : settings.Positive) (formed : viewport.tabRect? x active = some rect) :
    rect.left = x ∧ rect.width.val = settings.tabWidth.val ∧
      rect.top.val + rect.height.val = viewport.outer.top.val := by
  have wide := positive.tabWidth
  have low := positive.tabHeight
  have high := positive.fullTabHeight
  unfold tabRect? at formed
  rw [anchored.tabWidth, anchored.tabHeight, anchored.fullTabHeight] at formed
  obtain ⟨top, isTop, formed⟩ := Option.bind_eq_some_iff.mp formed
  cases formed
  have atTop := Px.fit?_eq_some_iff.mp isTop
  refine ⟨rfl, ?_, ?_⟩
  · rw [Rect.val_width_ofSize]
    omega
  · show top.val + (Rect.ofSize _ _ _ _).height.val = _
    rw [Rect.val_height_ofSize, atTop]
    split <;> omega

/-- The add button stands one slot beyond the tabs and keeps off the frame. -/
theorem corner_of_addButton? (anchored : viewport.Anchored settings) (few : count < 2147483648)
    (formed : viewport.addButton? count = some rect) :
    rect.left.val = viewport.outer.left.val + viewport.outer.width.val - 20 -
        (count + 1) * settings.tabWidth.val ∧
      rect.width.val = 16 ∧ rect.top.val = viewport.outer.top.val - 18 ∧ rect.height.val = 16 := by
  unfold addButton? at formed
  obtain ⟨right, isRight, formed⟩ := Option.bind_eq_some_iff.mp formed
  obtain ⟨inside, isInside, formed⟩ := Option.bind_eq_some_iff.mp formed
  obtain ⟨first, isFirst, formed⟩ := Option.bind_eq_some_iff.mp formed
  obtain ⟨taken, isTaken, formed⟩ := Option.bind_eq_some_iff.mp formed
  obtain ⟨left, isLeft, formed⟩ := Option.bind_eq_some_iff.mp formed
  obtain ⟨top, isTop, formed⟩ := Option.bind_eq_some_iff.mp formed
  cases formed
  have margin : addButtonMargin.val = 20 := rfl
  refine ⟨?_, rfl, Px.fit?_eq_some_iff.mp isTop, rfl⟩
  show left.val = _
  rw [Px.fit?_eq_some_iff.mp isLeft, Px.fit?_eq_some_iff.mp isFirst,
    Px.fit?_eq_some_iff.mp isInside, Px.fit?_eq_some_iff.mp isRight,
    Px.fit?_eq_some_iff.mp isTaken, Px.val_wrap_of_lt few, anchored.tabWidth, margin, Int.add_mul]
  omega

end Viewport

end Handbook
