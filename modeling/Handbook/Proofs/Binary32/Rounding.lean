import Handbook.Binary32.Arithmetic
import Handbook.Binary32.Whole

namespace Handbook.Binary32

attribute [local instance] natPower

variable {dividend divisor bound exponent : Nat}

private theorem nearestEven_le_of_le (positive : 0 < divisor) (below : dividend ≤ bound * divisor) :
    nearestEven dividend divisor ≤ bound := by
  have quotient : dividend / divisor ≤ bound := by
    rw [Nat.div_le_iff_le_mul positive]
    omega
  rcases Nat.lt_or_eq_of_le quotient with less | atBound
  · exact Nat.le_trans (nearestEven_le dividend divisor) less
  · -- The quotient is exact, so nothing is rounded up.
    have whole := Nat.div_add_mod dividend divisor
    rw [atBound, Nat.mul_comm] at whole
    have exact : dividend % divisor = 0 := by omega
    unfold nearestEven
    simp only [exact, Nat.mul_zero, positive, true_or, if_true]
    exact quotient

private theorem spacing_le (below : dividend ≤ 2 ^ exponent * divisor) :
    spacing dividend divisor ≤ exponent := by
  have quotient : dividend / divisor ≤ 2 ^ exponent :=
    Nat.div_le_of_le_mul (Nat.mul_comm _ _ ▸ below)
  have digits : (dividend / divisor).log2 ≤ exponent := by
    by_cases zero : dividend / divisor = 0
    · rw [zero]
      exact Nat.zero_le _
    · exact (Nat.pow_le_pow_iff_right (Nat.lt_succ_self 1)).mp
        (Nat.le_trans (Nat.log2_self_le zero) quotient)
  exact Nat.le_trans (Nat.sub_le _ _) digits

theorem roundUnits_le_two_pow (positive : 0 < divisor) (below : dividend ≤ 2 ^ exponent * divisor) :
    roundUnits dividend divisor ≤ 2 ^ exponent := by
  have spaced := spacing_le below
  have split : 2 ^ (exponent - spacing dividend divisor) * 2 ^ spacing dividend divisor =
      2 ^ exponent := by
    rw [← Nat.pow_add, Nat.sub_add_cancel spaced]
  have nearest : nearestEven dividend (divisor * 2 ^ spacing dividend divisor) ≤
      2 ^ (exponent - spacing dividend divisor) := by
    apply nearestEven_le_of_le (Nat.mul_pos positive (Nat.two_pow_pos _))
    calc dividend ≤ 2 ^ exponent * divisor := below
      _ = 2 ^ (exponent - spacing dividend divisor) *
          (divisor * 2 ^ spacing dividend divisor) := by
        rw [← split]
        ac_rfl
  calc roundUnits dividend divisor
      ≤ 2 ^ (exponent - spacing dividend divisor) * 2 ^ spacing dividend divisor :=
        Nat.mul_le_mul_right _ nearest
    _ = 2 ^ exponent := split

theorem two_pow_le_roundUnits (positive : 0 < divisor) (above : 2 ^ exponent * divisor ≤ dividend) :
    2 ^ exponent ≤ roundUnits dividend divisor := by
  have quotient : 2 ^ exponent ≤ dividend / divisor := (Nat.le_div_iff_mul_le positive).mpr above
  have nonzero : dividend / divisor ≠ 0 := by
    have := Nat.two_pow_pos exponent
    omega
  have digits : exponent ≤ (dividend / divisor).log2 := (Nat.le_log2 nonzero).mpr quotient
  have spaced : spacing dividend divisor ≤ (dividend / divisor).log2 := Nat.sub_le _ _
  calc 2 ^ exponent
      ≤ 2 ^ (dividend / divisor).log2 := Nat.pow_le_pow_right Nat.zero_lt_two digits
    _ = 2 ^ ((dividend / divisor).log2 - spacing dividend divisor) *
          2 ^ spacing dividend divisor := by
        rw [← Nat.pow_add, Nat.sub_add_cancel spaced]
    _ ≤ dividend / (divisor * 2 ^ spacing dividend divisor) * 2 ^ spacing dividend divisor := by
        apply Nat.mul_le_mul_right
        rw [← Nat.div_div_eq_div_mul, Nat.le_div_iff_mul_le (Nat.two_pow_pos _), ← Nat.pow_add,
          Nat.sub_add_cancel spaced]
        exact Nat.log2_self_le nonzero
    _ ≤ roundUnits dividend divisor := Nat.mul_le_mul_right _ (le_nearestEven _ _)

theorem ofQuotient_ne_nan (negative : Bool) (dividend divisor : Nat) :
    ofQuotient negative dividend divisor ≠ .nan := by
  unfold ofQuotient
  split <;> exact nofun

/-- A pixel number is finite, and of its units there are none only for zero. -/
theorem exists_ofInt_px (pixel : Px) :
    ∃ units representable, ofInt pixel.val =
      .finite (decide (pixel.val < 0)) units representable ∧ (units = 0 → pixel.val = 0) := by
  have low := pixel.lower_le
  have high := pixel.le_upper
  have magnitude : pixel.val.natAbs ≤ 2 ^ (31 : Nat) := by omega
  have below : pixel.val.natAbs * oneUnits ≤ 2 ^ (180 : Nat) * 1 := by
    calc pixel.val.natAbs * oneUnits ≤ 2 ^ (31 : Nat) * oneUnits := Nat.mul_le_mul_right _ magnitude
      _ = 2 ^ (180 : Nat) * 1 := by decide
  have fits : roundUnits (pixel.val.natAbs * oneUnits) 1 < endUnits :=
    Nat.lt_of_le_of_lt (roundUnits_le_two_pow Nat.one_pos below) (by decide)
  refine ⟨_, ⟨fits, dvd_roundUnits _ 1⟩, by rw [ofInt, ofRatio, ofQuotient, dif_pos fits], ?_⟩
  intro none
  refine Decidable.byContradiction fun nonzero => ?_
  have above : 2 ^ (149 : Nat) * 1 ≤ pixel.val.natAbs * oneUnits := by
    rw [Nat.mul_comm]
    exact Nat.mul_le_mul_right _ (Int.natAbs_pos.mpr nonzero)
  have some := two_pow_le_roundUnits Nat.one_pos above
  rw [none] at some
  exact absurd some (by decide)

/-- A quotient of pixel numbers is a number unless its divisor is zero. -/
theorem div_ne_nan (first : Px) {second : Px} (nonzero : second.val ≠ 0) :
    ofInt first.val / ofInt second.val ≠ .nan := by
  obtain ⟨units, representable, isFirst, -⟩ := exists_ofInt_px first
  obtain ⟨more, alsoRepresentable, isSecond, none⟩ := exists_ofInt_px second
  have some : more ≠ 0 := fun zero => nonzero (none zero)
  rw [isFirst, isSecond]
  show div _ _ ≠ _
  rw [div, if_neg some]
  exact ofQuotient_ne_nan _ _ _

theorem clampUnit_clampUnit (value : Binary32) : value.clampUnit.clampUnit = value.clampUnit := by
  have zero : clampUnit 0 = 0 := by decide
  have one : clampUnit 1 = 1 := by decide
  by_cases low : value.less 0 = true
  · have isZero : value.clampUnit = 0 := if_pos low
    rw [isZero, zero]
  · by_cases high : less 1 value = true
    · have isOne : value.clampUnit = 1 := (if_neg low).trans (if_pos high)
      rw [isOne, one]
    · have same : value.clampUnit = value := (if_neg low).trans (if_neg high)
      rw [same, same]

theorem isNaN_clampUnit {value : Binary32} (number : value ≠ .nan) :
    value.clampUnit.isNaN = false := by
  have known : value.isNaN = false := by
    cases value with
    | nan => exact absurd rfl number
    | _ => rfl
  unfold clampUnit clamp
  split
  · decide
  · split
    · decide
    · exact known

private theorem exists_finite_clampUnit {value : Binary32} (number : value ≠ .nan) :
    ∃ negative units representable, value.clampUnit = .finite negative units representable := by
  by_cases low : value.less 0 = true
  · exact ⟨_, _, _, if_pos low⟩
  · by_cases high : less 1 value = true
    · exact ⟨_, _, _, (if_neg low).trans (if_pos high)⟩
    · have same : value.clampUnit = value := (if_neg low).trans (if_neg high)
      rw [same]
      cases value with
      | nan => exact absurd rfl number
      | infinity negative =>
        cases negative with
        | false => exact absurd (by decide) high
        | true => exact absurd (by decide) low
      | finite negative units representable => exact ⟨_, _, _, rfl⟩

theorem round_clampUnit_mul_zero {value : Binary32} (number : value ≠ .nan) :
    (value.clampUnit * ofInt 0).round = 0 := by
  obtain ⟨negative, units, representable, isFinite⟩ := exists_finite_clampUnit number
  have product : Binary32.finite negative units representable * ofInt 0 =
      ofQuotient (negative != false) (units * 0) oneUnits := rfl
  rw [isFinite, product, Nat.mul_zero]
  cases negative <;> decide

end Handbook.Binary32
