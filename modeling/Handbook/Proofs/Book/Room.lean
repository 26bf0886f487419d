import Handbook.Book.Basic
import Handbook.Proofs.Book.Viewport
import Handbook.Snapshot.Options

namespace Handbook

namespace Settings

variable {settings : Settings}

/-- The sizes that must not be negative are not. -/
structure Natural (settings : Settings) : Prop where
  shadowThickness : 0 ≤ settings.shadowThickness.val
  separatorThickness : 0 ≤ settings.separatorThickness.val
  tileBorder : 0 ≤ settings.tileBorder.val

theorem natural_of_check (accepted : settings.check = .ok ()) : settings.Natural := by
  have sound := problem?_of_check accepted
  unfold problem? at sound
  split at sound
  · cases sound
  · split at sound
    · cases sound
    · split at sound
      · cases sound
      · next allNatural =>
        rw [List.find?_eq_none] at allNatural
        simp only [naturalSizes, List.forall_mem_cons, decide_eq_true_eq, Int.not_lt] at allNatural
        obtain ⟨shadow, separator, tileBorder, -⟩ := allNatural
        exact ⟨shadow, separator, tileBorder⟩

end Settings

namespace Viewport

variable {screenWidth screenHeight : Px} {settings : Settings} {outer inner : Rect}

/-- The sums that place the parts of a book stay in the pixel range: six screens, two borders, two
tabs, the separator with its shadows, the left edge of the column, and the width that is left of the
column. -/
structure HasRoom (screenWidth screenHeight : Px) (settings : Settings) : Prop where
  width : 6 * screenWidth.val ≤ 2147483647
  height : 6 * screenHeight.val ≤ 2147483647
  borders : 2 * settings.borderThickness.val ≤ 2147483647
  tabs : 2 * settings.tabWidth.val ≤ 2147483647
  separator : 2 * settings.shadowThickness.val + settings.separatorThickness.val ≤ 2147483647
  column : screenWidth.val / 8 + settings.borderThickness.val + settings.shadowThickness.val ≤
    2147483647
  remainder : 2 * settings.shadowThickness.val + settings.sliderWidth.val +
      settings.separatorThickness.val ≤
    max (6 * screenWidth.val / 8 - 2 * settings.borderThickness.val) 0 + 2147483648

private theorem isSome_frameShare? {length : Px} (natural : 0 ≤ length.val) :
    (frameShare? length).isSome ↔ 6 * length.val ≤ 2147483647 := by
  simp only [frameShare?, bind, pure, Px.isSome_fit?_bind, Option.isSome_some, exists_prop,
    and_true, Px.InRange]
  omega

private theorem val_of_frameShare? {length share : Px} (natural : 0 ≤ length.val)
    (formed : frameShare? length = some share) : share.val = 6 * length.val / 8 := by
  obtain ⟨six, isSix, formed⟩ := Option.bind_eq_some_iff.mp formed
  have atSix := Px.fit?_eq_some_iff.mp isSix
  rw [← Option.some.inj formed, Px.val_quotient, atSix, Int.mul_comm]
  exact Int.tdiv_eq_ediv_of_nonneg (by omega)

theorem isSome_outerRect? (widthNatural : 0 ≤ screenWidth.val)
    (heightNatural : 0 ≤ screenHeight.val) :
    (outerRect? screenWidth screenHeight).isSome ↔
      6 * screenWidth.val ≤ 2147483647 ∧ 6 * screenHeight.val ≤ 2147483647 := by
  rw [← isSome_frameShare? widthNatural, ← isSome_frameShare? heightNatural]
  cases isShare : frameShare? screenWidth <;> cases isRise : frameShare? screenHeight <;>
    simp [outerRect?, isShare, isRise]

/-- The frame starts one eighth into the screen and takes six eighths of it. -/
theorem extent_of_outerRect? (widthNatural : 0 ≤ screenWidth.val)
    (heightNatural : 0 ≤ screenHeight.val)
    (formed : outerRect? screenWidth screenHeight = some outer) :
    outer.left.val = screenWidth.val / 8 ∧ outer.top.val = screenHeight.val / 8 ∧
      outer.width.val = 6 * screenWidth.val / 8 ∧ outer.height.val = 6 * screenHeight.val / 8 := by
  obtain ⟨width, isWidth, formed⟩ := Option.bind_eq_some_iff.mp formed
  obtain ⟨height, isHeight, formed⟩ := Option.bind_eq_some_iff.mp formed
  cases formed
  have wide := val_of_frameShare? widthNatural isWidth
  have high := val_of_frameShare? heightNatural isHeight
  refine ⟨?_, ?_, ?_, ?_⟩
  · exact (Px.val_quotient screenWidth 8).trans (Int.tdiv_eq_ediv_of_nonneg (by omega))
  · exact (Px.val_quotient screenHeight 8).trans (Int.tdiv_eq_ediv_of_nonneg (by omega))
  · rw [Rect.val_width_ofSize]
    omega
  · rw [Rect.val_height_ofSize]
    omega

section Parts

variable (positive : settings.Positive) (natural : settings.Natural)

include positive in
private theorem isSome_railRect? (inside : 0 ≤ inner.left.val) :
    (railRect? inner settings).isSome ↔ inner.right?.isSome := by
  have wide := inner.width_nonneg
  have slider := positive.sliderWidth
  have sliderSmall := settings.sliderWidth.le_upper
  rw [Rect.isSome_right? inside]
  simp only [railRect?, Rect.right?, bind, pure, Px.isSome_fit?_bind, Option.isSome_some,
    exists_prop, and_true, Px.InRange]
  omega

include positive natural in
private theorem isSome_separatorRect? (inside : 0 ≤ inner.left.val) :
    (separatorRect? inner settings).isSome ↔
      inner.right?.isSome ∧
        2 * settings.shadowThickness.val + settings.separatorThickness.val ≤ 2147483647 ∧
        settings.sliderWidth.val + settings.separatorThickness.val + settings.shadowThickness.val ≤
          inner.left.val + inner.width.val + 2147483648 := by
  have wide := inner.width_nonneg
  have slider := positive.sliderWidth
  have shadow := natural.shadowThickness
  have line := natural.separatorThickness
  rw [Rect.isSome_right? inside]
  simp only [separatorRect?, Rect.right?, bind, pure, Px.isSome_fit?_bind, Option.isSome_some,
    exists_prop, and_true, Px.InRange]
  omega

include positive natural in
private theorem isSome_visibleRect? (inside : 0 ≤ inner.left.val) :
    (visibleRect? inner settings).isSome ↔
      inner.left.val + settings.shadowThickness.val ≤ 2147483647 ∧
        2 * settings.shadowThickness.val ≤ 2147483647 ∧
        2 * settings.shadowThickness.val + settings.sliderWidth.val +
          settings.separatorThickness.val ≤ inner.width.val + 2147483648 := by
  have wide := inner.width_nonneg
  have fits := inner.width.le_upper
  have slider := positive.sliderWidth
  have shadow := natural.shadowThickness
  have line := natural.separatorThickness
  simp only [visibleRect?, bind, pure, Px.isSome_fit?_bind, Option.isSome_some, exists_prop,
    and_true, Px.InRange]
  omega

include positive in
private theorem isSome_homeRect? (inside : 0 ≤ outer.left.val) (below : 0 ≤ outer.top.val) :
    (homeRect? outer settings).isSome ↔ outer.right?.isSome := by
  have wide := outer.width_nonneg
  have fits := outer.top.le_upper
  have tab := positive.tabWidth
  have tabSmall := settings.tabWidth.le_upper
  have high := positive.tabHeight
  have highSmall := settings.tabHeight.le_upper
  rw [Rect.isSome_right? inside]
  simp only [homeRect?, Rect.right?, bind, pure, Px.isSome_fit?_bind, Option.isSome_some,
    exists_prop, and_true, Px.InRange]
  omega

include positive in
private theorem isSome_tabOrigin? (inside : 0 ≤ outer.left.val) :
    (tabOrigin? outer settings).isSome ↔
      outer.right?.isSome ∧ 2 * settings.tabWidth.val ≤ 2147483647 := by
  have wide := outer.width_nonneg
  have tab := positive.tabWidth
  have margin : stripMargin.val = 2 := rfl
  rw [Rect.isSome_right? inside]
  simp only [tabOrigin?, Rect.right?, bind, Px.isSome_fit?_bind, Px.fit?_isSome_iff, exists_prop,
    margin, Px.InRange]
  omega

end Parts

theorem isSome_compute?_iff :
    (compute? screenWidth screenHeight settings).isSome ↔
      ∃ outer inner, outerRect? screenWidth screenHeight = some outer ∧
        outer.inset? settings.borderThickness = some inner ∧
        (separatorRect? inner settings).isSome ∧ (railRect? inner settings).isSome ∧
        (visibleRect? inner settings).isSome ∧ (homeRect? outer settings).isSome ∧
        (tabOrigin? outer settings).isSome := by
  constructor
  · intro formed
    obtain ⟨viewport, formed⟩ := Option.isSome_iff_exists.mp formed
    have computed := computed_of_compute? formed
    exact ⟨_, _, computed.outer, computed.inner, Option.isSome_of_eq_some computed.separator,
      Option.isSome_of_eq_some computed.rail, Option.isSome_of_eq_some computed.visible,
      Option.isSome_of_eq_some computed.homeButton, Option.isSome_of_eq_some computed.tabOrigin⟩
  · rintro ⟨outer, inner, isOuter, isInner, separator, rail, visible, home, origin⟩
    obtain ⟨_, isSeparator⟩ := Option.isSome_iff_exists.mp separator
    obtain ⟨_, isRail⟩ := Option.isSome_iff_exists.mp rail
    obtain ⟨_, isVisible⟩ := Option.isSome_iff_exists.mp visible
    obtain ⟨_, isHome⟩ := Option.isSome_iff_exists.mp home
    obtain ⟨_, isOrigin⟩ := Option.isSome_iff_exists.mp origin
    rw [compute?, isOuter, Option.bind_eq_bind, Option.bind_some, isInner, Option.bind_eq_bind,
      Option.bind_some, isSeparator, isRail, isVisible, isHome, isOrigin]
    rfl

/-- The parts of a book can be placed exactly where the screen and the settings leave room. -/
theorem isSome_compute?_iff_hasRoom (positive : settings.Positive) (natural : settings.Natural)
    (widthPositive : 0 < screenWidth.val) (heightPositive : 0 < screenHeight.val) :
    (compute? screenWidth screenHeight settings).isSome ↔
      HasRoom screenWidth screenHeight settings := by
  have widthNatural := Int.le_of_lt widthPositive
  have heightNatural := Int.le_of_lt heightPositive
  have border := positive.borderThickness
  have shadow := natural.shadowThickness
  have line := natural.separatorThickness
  rw [isSome_compute?_iff]
  constructor
  · rintro ⟨outer, inner, isOuter, isInner, separator, rail, visible, home, origin⟩
    obtain ⟨outerLeft, outerTop, outerWidth, outerHeight⟩ :=
      extent_of_outerRect? widthNatural heightNatural isOuter
    obtain ⟨innerLeft, innerTop, innerWidth, innerHeight⟩ := Rect.extent_of_inset? isInner
    obtain ⟨-, -, ⟨-, borders⟩, -, -⟩ := Rect.isSome_inset?.mp (Option.isSome_of_eq_some isInner)
    have inside : 0 ≤ inner.left.val := by omega
    obtain ⟨-, lines, -⟩ := (isSome_separatorRect? positive natural inside).mp separator
    obtain ⟨column, -, remainder⟩ := (isSome_visibleRect? positive natural inside).mp visible
    obtain ⟨-, tabs⟩ := (isSome_tabOrigin? positive (by omega)).mp origin
    obtain ⟨width, height⟩ :=
      (isSome_outerRect? widthNatural heightNatural).mp (Option.isSome_of_eq_some isOuter)
    exact {
      width, height, borders, tabs
      separator := lines
      column := by omega
      remainder := by omega }
  · rintro ⟨width, height, borders, tabs, separator, column, remainder⟩
    obtain ⟨outer, isOuter⟩ := Option.isSome_iff_exists.mp
      ((isSome_outerRect? widthNatural heightNatural).mpr ⟨width, height⟩)
    obtain ⟨outerLeft, outerTop, outerWidth, outerHeight⟩ :=
      extent_of_outerRect? widthNatural heightNatural isOuter
    have isInner : (outer.inset? settings.borderThickness).isSome := by
      rw [Rect.isSome_inset?]
      simp only [Px.InRange]
      omega
    obtain ⟨inner, isInner⟩ := Option.isSome_iff_exists.mp isInner
    obtain ⟨innerLeft, innerTop, innerWidth, innerHeight⟩ := Rect.extent_of_inset? isInner
    have inside : 0 ≤ inner.left.val := by omega
    have outerRight : outer.right?.isSome := by
      rw [Rect.isSome_right? (by omega)]
      omega
    have innerRight : inner.right?.isSome := by
      rw [Rect.isSome_right? inside]
      omega
    refine ⟨outer, inner, isOuter, isInner, ?_, ?_, ?_, ?_, ?_⟩
    · exact (isSome_separatorRect? positive natural inside).mpr ⟨innerRight, separator, by omega⟩
    · exact (isSome_railRect? positive inside).mpr innerRight
    · exact (isSome_visibleRect? positive natural inside).mpr ⟨by omega, by omega, by omega⟩
    · exact (isSome_homeRect? positive (by omega) (by omega)).mpr outerRight
    · exact (isSome_tabOrigin? positive (by omega)).mpr ⟨outerRight, tabs⟩

private theorem hasRoom_of_le (positive : settings.Positive)
    (width : screenWidth.val ≤ 357913941) (height : screenHeight.val ≤ 357913941)
    (border : settings.borderThickness.val ≤ 536870912)
    (shadow : settings.shadowThickness.val ≤ 536870912)
    (separator : settings.separatorThickness.val ≤ 536870912)
    (slider : settings.sliderWidth.val ≤ 536870912) (tab : settings.tabWidth.val ≤ 536870912) :
    HasRoom screenWidth screenHeight settings := by
  have thick := positive.borderThickness
  constructor <;> omega

end Viewport

namespace Snapshot

theorem positive_of_dimension? {text : String} {pixels : Px}
    (read : dimension? text = some pixels) : 0 < pixels.val := by
  unfold dimension? at read
  extract_lets digits value at read
  split at read
  · cases read
  · split at read
    · cases read
    · next nonzero =>
      rw [Px.fit?_eq_some_iff.mp read]
      exact Int.natCast_pos.mpr (Nat.pos_of_ne_zero nonzero)

private theorem dimension?_toDigits {pixels : Px} (positive : 0 < pixels.val) :
    dimension? (String.ofList (Nat.toDigits 10 pixels.val.toNat)) = some pixels := by
  have value : Nat.ofDigitChars 10 (Nat.toDigits 10 pixels.val.toNat) 0 = pixels.val.toNat :=
    Nat.ofDigitChars_ten_toDigits
  rw [dimension?_of_digits (String.toList_ofList.trans (List.nil_append _).symm) (.inl rfl)
    Nat.toDigits_ne_nil (fun _ => Nat.isDigit_of_mem_toDigits (by decide) (by decide)) (by omega),
    value, Int.toNat_of_nonneg (by omega), Px.fit?_val]

/-- Every positive pixel number can be written as a dimension, and nothing else can. -/
theorem exists_dimension?_iff {pixels : Px} :
    (∃ text, dimension? text = some pixels) ↔ 0 < pixels.val :=
  ⟨fun ⟨_, read⟩ => positive_of_dimension? read, fun positive => ⟨_, dimension?_toDigits positive⟩⟩

end Snapshot

namespace Book

variable {settings : Settings} {source : String → Option Document} {font : Font}
  {screenWidth screenHeight : Px}

/-- Settings that are refused are reported with their first problem, whatever the screen. -/
theorem openAt_of_problem {problem : Settings.Problem}
    (found : settings.problem? = some problem) :
    openAt settings source font screenWidth screenHeight = .error (.badSettings problem) := by
  have refused : settings.check = .error (.badSettings problem) := by
    rw [Settings.check, found]
  rw [openAt, refused]
  rfl

private theorem artwork_ne_overflow {size : SheetSize} : Artwork.of size ≠ .error .overflow := by
  unfold Artwork.of
  split <;> exact nofun

/-- A pixel number leaves its range while a book is opened exactly where the parts cannot be placed
or the first page cannot be flowed. -/
theorem openAt_overflow_iff (accepted : settings.check = .ok ()) :
    openAt settings source font screenWidth screenHeight = .error .overflow ↔
      (∃ art, Artwork.of settings.sheet = .ok art) ∧
        ∀ viewport, Viewport.compute? screenWidth screenHeight settings = some viewport →
          (load source settings.mainMenu).refresh? font viewport.visible = none := by
  rw [openAt, accepted]
  cases sheet : Artwork.of settings.sheet with
  | error fault =>
    have other : fault ≠ .overflow := fun same => artwork_ne_overflow (same ▸ sheet)
    simpa [bind, Except.bind] using other
  | ok art =>
    cases placed : Viewport.compute? screenWidth screenHeight settings with
    | none => simp [bind, Except.bind, Fault.ofOption]
    | some viewport =>
      cases flowed : (load source settings.mainMenu).refresh? font viewport.visible <;>
        simp [bind, Except.bind, Fault.ofOption, flowed, pure, Except.pure]

end Book

namespace Settings

open Snapshot

private theorem isSome_frameCorner? {settings : Settings} (positive : settings.Positive)
    (natural : settings.Natural) :
    settings.frameCorner?.isSome ↔
      settings.borderThickness.val + settings.shadowThickness.val ≤ 2147483647 := by
  have border := positive.borderThickness
  have shadow := natural.shadowThickness
  rw [frameCorner?, Px.fit?_isSome_iff, Px.InRange]
  omega

/-- Accepted settings are laid out on a screen exactly where there is room, and the corner of the
frame is formed exactly when border and shadow together stay in the pixel range. Only for want of
room or of a flow of the first page does opening a book leave the range; refused settings are
reported as refused. -/
theorem layout_in_range_iff :
    (∀ pixels, (∃ text, dimension? text = some pixels) ↔ 0 < pixels.val) ∧
    ∀ (settings : Settings) (widthText heightText : String) (screenWidth screenHeight : Px),
      dimension? widthText = some screenWidth → dimension? heightText = some screenHeight →
      (∀ problem, settings.problem? = some problem → ∀ source font,
        Book.openAt settings source font screenWidth screenHeight =
          .error (.badSettings problem)) ∧
      (settings.check = .ok () →
        ((Viewport.compute? screenWidth screenHeight settings).isSome ↔
          Viewport.HasRoom screenWidth screenHeight settings) ∧
        (settings.frameCorner?.isSome ↔
          settings.borderThickness.val + settings.shadowThickness.val ≤ 2147483647) ∧
        (screenWidth.val ≤ 357913941 → screenHeight.val ≤ 357913941 →
          settings.borderThickness.val ≤ 536870912 → settings.shadowThickness.val ≤ 536870912 →
          settings.separatorThickness.val ≤ 536870912 → settings.sliderWidth.val ≤ 536870912 →
          settings.tabWidth.val ≤ 536870912 →
          (Viewport.compute? screenWidth screenHeight settings).isSome ∧
            settings.frameCorner?.isSome) ∧
        ∀ source font,
          Book.openAt settings source font screenWidth screenHeight = .error .overflow ↔
            (∃ art, Artwork.of settings.sheet = .ok art) ∧
              ∀ viewport, Viewport.compute? screenWidth screenHeight settings = some viewport →
                (Book.load source settings.mainMenu).refresh? font viewport.visible = none) := by
  refine ⟨fun _ => exists_dimension?_iff, ?_⟩
  intro settings _ _ screenWidth screenHeight isWidth isHeight
  refine ⟨fun _ found _ _ => Book.openAt_of_problem found, fun accepted => ?_⟩
  have positive := positive_of_check accepted
  have natural := natural_of_check accepted
  have placed := Viewport.isSome_compute?_iff_hasRoom positive natural
    (positive_of_dimension? isWidth) (positive_of_dimension? isHeight)
  have cornered := isSome_frameCorner? positive natural
  refine ⟨placed, cornered, ?_, fun _ _ => Book.openAt_overflow_iff accepted⟩
  intro width height border shadow separator slider tab
  have room := Viewport.hasRoom_of_le positive width height border shadow separator slider tab
  exact ⟨placed.mpr room, cornered.mpr (by omega)⟩

theorem layout_in_range_standard :
    (dimension? "1280" = some 1280 ∧ dimension? "800" = some 800) ∧
      (problem? { tabWidth := 0 } = some (.notPositive "tab_width" 0) ∧
        Book.openAt { tabWidth := 0 } (fun _ => none) Font.standard 1280 800 =
          .error (.badSettings (.notPositive "tab_width" 0))) ∧
      check {} = .ok () ∧
        (Viewport.compute? 1280 800 {}).isSome ∧ (frameCorner? {}).isSome := by
  have isWidth : dimension? "1280" = some 1280 := by decide
  have isHeight : dimension? "800" = some 800 := by decide
  have refused := (layout_in_range_iff.2 { tabWidth := 0 } "1280" "800" 1280 800 isWidth isHeight).1
  have standard := (layout_in_range_iff.2 {} "1280" "800" 1280 800 isWidth isHeight).2 rfl
  have roomy := standard.2.2.1 (by decide) (by decide) (by decide) (by decide) (by decide)
    (by decide) (by decide)
  exact ⟨⟨isWidth, isHeight⟩, ⟨rfl, refused _ rfl _ _⟩, rfl, roomy⟩

/-- Accepted settings and screens without room: a screen of four hundred million columns, tabs of
half the pixel range, and a border of all of it. -/
theorem layout_out_of_range :
    check {} = .ok () ∧ dimension? "400000000" = some 400000000 ∧
      dimension? "600" = some 600 ∧ Viewport.compute? 400000000 600 {} = none ∧
      check { tabWidth := 1073741824 } = .ok () ∧ dimension? "800" = some 800 ∧
      Viewport.compute? 800 600 { tabWidth := 1073741824 } = none ∧
      check { borderThickness := 2147483647 } = .ok () ∧
      frameCorner? { borderThickness := 2147483647 } = none := by
  refine ⟨rfl, by decide, by decide, by decide, rfl, by decide, by decide, rfl, by decide⟩

end Settings

end Handbook
