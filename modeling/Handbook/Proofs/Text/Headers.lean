import Handbook.Proofs.Binary32.Order
import Handbook.Text.Flow

namespace Handbook

namespace Binary32

attribute [local instance] natPower

/-- The number is positive and has at least so many units. -/
inductive AtLeast (units : Nat) : Binary32 → Prop
  | infinity : AtLeast units (.infinity false)
  | finite {more : Nat} {representable : Representable more} (enough : units ≤ more) :
    AtLeast units (.finite false more representable)

variable {dividend divisor exponent : Nat} {value : Binary32}

private theorem atLeast_ofQuotient (positive : 0 < divisor)
    (above : 2 ^ exponent * divisor ≤ dividend) :
    (ofQuotient false dividend divisor).AtLeast (2 ^ exponent) := by
  unfold ofQuotient
  split
  · exact .finite (two_pow_le_roundUnits positive above)
  · exact .infinity

private theorem atLeast_ofInt {number : Nat} (above : 4 ≤ number) :
    (ofInt number).AtLeast (2 ^ (151 : Nat)) := by
  have natural : decide ((number : Int) < 0) = false := decide_eq_false (by omega)
  rw [ofInt, ofRatio, natural, Int.natAbs_natCast]
  apply atLeast_ofQuotient Nat.one_pos
  calc 2 ^ (151 : Nat) * 1 = 4 * oneUnits := by decide
    _ ≤ number * oneUnits := Nat.mul_le_mul_right _ above

private theorem atLeast_quarter (above : value.AtLeast (2 ^ (151 : Nat))) :
    (ofRatio 1 4 * value).AtLeast (2 ^ (149 : Nat)) := by
  have quarter : ofRatio 1 4 = .finite false (2 ^ (147 : Nat)) (by decide) := by decide
  rw [quarter]
  cases above with
  | infinity => exact .infinity
  | finite enough =>
    apply atLeast_ofQuotient (by decide)
    calc 2 ^ (149 : Nat) * oneUnits = 2 ^ (147 : Nat) * 2 ^ (151 : Nat) := by decide
      _ ≤ 2 ^ (147 : Nat) * _ := Nat.mul_le_mul_left _ enough

/-- Rounding leaves a number that is negative or not above one so. -/
theorem place_le_of_ofQuotient {negative : Bool} {place : Int}
    (small : negative = false → dividend ≤ oneUnits)
    (isPlace : (ofQuotient negative dividend 1).place? = some place) : place ≤ oneUnits := by
  cases negative with
  | true =>
    unfold ofQuotient at isPlace
    split at isPlace <;> cases isPlace <;> simp only [signed, if_true] <;> omega
  | false =>
    have rounded : roundUnits dividend 1 ≤ oneUnits :=
      roundUnits_le_two_pow Nat.one_pos (Nat.le_trans (small rfl) (Nat.le_of_eq (by decide)))
    rw [ofQuotient, dif_pos (Nat.lt_of_le_of_lt rounded (by decide))] at isPlace
    cases isPlace
    exact Int.ofNat_le.mpr rounded

private theorem place_le_of_two_sub {place : Int} (above : value.AtLeast (2 ^ (149 : Nat)))
    (isPlace : (2 - value).place? = some place) : place ≤ oneUnits := by
  have two : (2 : Binary32) = .finite false (2 * oneUnits) (by decide) := by decide
  rw [two] at isPlace
  cases above with
  | infinity =>
    cases isPlace
    decide
  | @finite more representable enough =>
    change (if ((2 * oneUnits : Nat) : Int) + -(more : Int) = 0 then zero (false && true)
      else ofQuotient (decide (((2 * oneUnits : Nat) : Int) + -(more : Int) < 0))
        (((2 * oneUnits : Nat) : Int) + -(more : Int)).natAbs 1).place? = some place at isPlace
    have one : 2 ^ (149 : Nat) = oneUnits := rfl
    rw [one] at enough
    split at isPlace
    · cases isPlace
      decide
    · refine place_le_of_ofQuotient (fun positive => ?_) isPlace
      have sign := of_decide_eq_false positive
      omega

private theorem larger_one (below : ∀ place, value.place? = some place → place ≤ oneUnits) :
    larger value 1 = 1 := by
  have one : (1 : Binary32) = .finite false oneUnits (by decide) := by decide
  cases value with
  | nan => rfl
  | infinity negative =>
    cases negative with
    | true => decide
    | false => exact absurd (below _ rfl) (by decide)
  | finite negative units representable =>
    have notAbove : signed negative units ≤ oneUnits := below _ rfl
    by_cases less : signed negative units < oneUnits
    · have isLess : Binary32.less (.finite negative units representable) 1 = true := by
        rw [one]
        exact decide_eq_true less
      unfold larger
      rw [isLess]
      rfl
    · cases negative with
      | true =>
        have place : signed true units = -(units : Int) := rfl
        have positive : 0 < oneUnits := by decide
        omega
      | false =>
        have same : units = oneUnits :=
          Int.ofNat_inj.mp (Int.le_antisymm notAbove (Int.not_lt.mp less))
        subst same
        have isOne : finite false oneUnits representable = 1 := one.symm
        rw [isOne]
        decide

end Binary32

namespace Flow

attribute [local instance] natPower

/-- From the fifth level on headers are as large as regular text. -/
theorem headerScale_of_le {level : Nat} (deep : 5 ≤ level) : headerScale level = 1 := by
  have offset : 4 ≤ level - 1 := by omega
  apply Binary32.larger_one
  intro place isPlace
  have reduction := Binary32.atLeast_quarter (Binary32.atLeast_ofInt offset)
  exact Binary32.place_le_of_two_sub reduction isPlace

/-- Down to the fifth level headers lose a quarter of the size of regular text with each level. -/
theorem headerScale_of_lt {level : Nat} (shallow : level < 5) :
    ∃ representable,
      headerScale level = .finite false ((9 - max level 1) * 2 ^ (147 : Nat)) representable := by
  obtain rfl | rfl | rfl | rfl | rfl :
    level = 0 ∨ level = 1 ∨ level = 2 ∨ level = 3 ∨ level = 4 := by omega
  all_goals exact ⟨by decide, by decide⟩

private theorem exists_scaleOf (level : Option Nat) :
    ∃ units representable, scaleOf level = .finite false units representable ∧ 0 < units := by
  have one : (1 : Binary32) = .finite false oneUnits (by decide) := by decide
  cases level with
  | none => exact ⟨_, _, one, by decide⟩
  | some level =>
    rcases Nat.lt_or_ge level 5 with shallow | deep
    · obtain ⟨representable, isScale⟩ := headerScale_of_lt shallow
      exact ⟨_, representable, isScale, Nat.mul_pos (by omega) (Nat.two_pow_pos _)⟩
    · exact ⟨_, _, (headerScale_of_le deep).trans one, by decide⟩

theorem scaled_mono (level : Option Nat) {short long : Px} (natural : 0 ≤ short.val)
    (notAbove : short.val ≤ long.val) :
    (scaled short (scaleOf level)).val ≤ (scaled long (scaleOf level)).val := by
  obtain ⟨units, representable, isScale, positive⟩ := exists_scaleOf level
  rw [scaled, scaled, isScale]
  exact ((Binary32.notAbove_ofInt natural notAbove).mul representable positive).ceiling

theorem scaled_zero (level : Option Nat) : scaled 0 (scaleOf level) = 0 := by
  obtain ⟨units, representable, isScale, -⟩ := exists_scaleOf level
  have none : Binary32.ofInt (0 : Px).val = .finite false 0 (by decide) := by decide
  have product : (Binary32.finite false 0 (by decide) * .finite false units representable) =
      .finite false 0 (by decide) := by
    show Binary32.ofQuotient false (0 * units) oneUnits = _
    rw [Nat.zero_mul]
    decide
  rw [scaled, isScale, none, product]
  decide

theorem scaled_nonneg (level : Option Nat) {length : Px} (natural : 0 ≤ length.val) :
    0 ≤ (scaled length (scaleOf level)).val := by
  have above := scaled_mono level (Int.le_refl (0 : Px).val) natural
  rwa [scaled_zero] at above

end Flow

end Handbook
