/-!
Pixel numbers. Coordinates and lengths on the screen are whole numbers of 32 bits with a sign; sums
are formed over the integers and then fitted back, so that leaving the range shows as `none`.
-/

namespace Handbook

/-- A pixel coordinate or length: a whole number that fits in 32 bits, sign included. -/
structure Px where
  val : Int
  lower_le : -2147483648 ≤ val := by decide
  le_upper : val ≤ 2147483647 := by decide
deriving DecidableEq

namespace Px

instance : Coe Px Int := ⟨Px.val⟩

@[ext]
theorem ext {first second : Px} (same : first.val = second.val) : first = second := by
  cases first; cases second; simp_all

theorem ext_val_iff {first second : Px} : first = second ↔ first.val = second.val :=
  ⟨fun same => same ▸ rfl, ext⟩

/-- The integers that a pixel number can hold. -/
def InRange (value : Int) : Prop := -2147483648 ≤ value ∧ value ≤ 2147483647

instance (value : Int) : Decidable (InRange value) := inferInstanceAs (Decidable (_ ∧ _))

theorem inRange_val (pixel : Px) : InRange pixel.val := ⟨pixel.lower_le, pixel.le_upper⟩

/-- The pixel number with this value, or `none` when it leaves the range. -/
def fit? (value : Int) : Option Px :=
  if fits : InRange value then some ⟨value, fits.1, fits.2⟩ else none

theorem fit?_eq_some_iff {value : Int} {pixel : Px} :
    fit? value = some pixel ↔ pixel.val = value := by
  unfold fit?
  split
  · constructor
    · intro found
      cases found
      rfl
    · intro same
      exact congrArg some (Px.ext same.symm)
  · next outside =>
    constructor
    · intro found
      cases found
    · intro same
      exact absurd (same ▸ pixel.inRange_val) outside

theorem fit?_eq_none_iff {value : Int} : fit? value = none ↔ ¬ InRange value := by
  unfold fit?
  split <;> simp_all

theorem fit?_isSome_iff {value : Int} : (fit? value).isSome ↔ InRange value := by
  unfold fit?
  split <;> simp_all

theorem exists_fit? (value : Int) (fits : InRange value) :
    ∃ pixel, fit? value = some pixel ∧ pixel.val = value := by
  obtain ⟨pixel, formed⟩ := Option.isSome_iff_exists.mp (fit?_isSome_iff.mpr fits)
  exact ⟨pixel, formed, fit?_eq_some_iff.mp formed⟩

@[simp]
theorem fit?_val (pixel : Px) : fit? pixel.val = some pixel := fit?_eq_some_iff.mpr rfl

/-- The nearest pixel number: values beyond the range go to its end. -/
def saturate (value : Int) : Px :=
  ⟨max (-2147483648) (min value 2147483647), by omega, by omega⟩

theorem val_saturate (value : Int) :
    (saturate value).val = max (-2147483648) (min value 2147483647) := rfl

theorem saturate_of_inRange {value : Int} (fits : InRange value) :
    (saturate value).val = value := by
  unfold InRange at fits
  rw [val_saturate]
  omega

/-- The pixel number that agrees with `value` in the low 32 bits. -/
def wrap (value : Int) : Px :=
  ⟨value.bmod 4294967296,
    by have := Int.le_bmod (x := value) (m := 4294967296) (by decide); omega,
    by have := Int.bmod_lt (x := value) (m := 4294967296) (by decide); omega⟩

theorem wrap_of_inRange {value : Int} (fits : InRange value) : (wrap value).val = value := by
  unfold InRange at fits
  exact Int.bmod_eq_of_le (by omega) (by omega)

/-- The quotient by a whole number, its fraction dropped. -/
def quotient (pixel : Px) (divisor : Nat) : Px := saturate (pixel.val.tdiv divisor)

theorem val_quotient (pixel : Px) (divisor : Nat) :
    (pixel.quotient divisor).val = pixel.val.tdiv divisor := by
  have low := pixel.lower_le
  have high := pixel.le_upper
  have small : (pixel.val.tdiv divisor).natAbs ≤ pixel.val.natAbs := by
    rw [Int.natAbs_tdiv]
    exact Nat.div_le_self _ _
  rcases Int.lt_or_le pixel.val 0 with negative | natural
  · have sign : pixel.val.tdiv divisor ≤ 0 := by
      have := Int.tdiv_nonneg (a := -pixel.val) (b := divisor) (by omega) (by omega)
      rw [Int.neg_tdiv] at this
      omega
    exact saturate_of_inRange ⟨by omega, by omega⟩
  · have sign := Int.tdiv_nonneg (b := divisor) natural (by omega)
    exact saturate_of_inRange ⟨by omega, by omega⟩

instance (digits : Nat) : OfNat Px digits := ⟨saturate digits⟩

instance : Inhabited Px := ⟨0⟩

@[simp]
theorem val_zero : (0 : Px).val = 0 := rfl

instance : Max Px := ⟨fun first second => if first.val ≤ second.val then second else first⟩

instance : Min Px := ⟨fun first second => if first.val ≤ second.val then first else second⟩

@[simp]
theorem val_max (first second : Px) : (max first second).val = max first.val second.val := by
  show (if first.val ≤ second.val then second else first).val = _
  split <;> omega

@[simp]
theorem val_min (first second : Px) : (min first second).val = min first.val second.val := by
  show (if first.val ≤ second.val then first else second).val = _
  split <;> omega

end Px

end Handbook
