import Handbook.Binary32.Whole
import Handbook.Proofs.Binary32.Rounding

/-!
Rounding keeps the order of exact results. A number that is not negative is told by its count of
units, infinity standing one step past the finite numbers; whole numbers, products with a fixed
factor and the pixels that numbers are read as never change the order of two such counts.
-/

namespace Handbook.Binary32

attribute [local instance] natPower

variable {first second divisor : Nat}

theorem nearestEven_mono (notAbove : first ≤ second) :
    nearestEven first divisor ≤ nearestEven second divisor := by
  have quotients : first / divisor ≤ second / divisor := Nat.div_le_div_right notAbove
  rcases Nat.lt_or_eq_of_le quotients with less | same
  · exact Nat.le_trans (nearestEven_le first divisor)
      (Nat.le_trans less (le_nearestEven second divisor))
  · -- Within one step the larger remainder is rounded up whenever the smaller one is.
    have whole := Nat.div_add_mod first divisor
    have other := Nat.div_add_mod second divisor
    rw [← same] at other
    have remainders : first % divisor ≤ second % divisor := by omega
    unfold nearestEven
    simp only [← same]
    split <;> split <;> omega

theorem log2_quotient_mono (divisor : Nat) (notAbove : first ≤ second) :
    (first / divisor).log2 ≤ (second / divisor).log2 := by
  have quotients : first / divisor ≤ second / divisor := Nat.div_le_div_right notAbove
  by_cases zero : first / divisor = 0
  · rw [zero]
    exact Nat.zero_le _
  · have otherNonzero : second / divisor ≠ 0 := fun none =>
      zero (Nat.le_zero.mp (none ▸ quotients))
    exact (Nat.le_log2 otherNonzero).mpr (Nat.le_trans (Nat.log2_self_le zero) quotients)

theorem roundUnits_mono (positive : 0 < divisor) (notAbove : first ≤ second) :
    roundUnits first divisor ≤ roundUnits second divisor := by
  rcases Nat.lt_or_eq_of_le (log2_quotient_mono divisor notAbove) with less | same
  · -- A power of two stands between quotients of different length, and rounding never passes it.
    have nonzero : second / divisor ≠ 0 := by
      intro zero
      rw [zero] at less
      exact Nat.not_lt_zero _ less
    have below : first / divisor < 2 ^ (second / divisor).log2 := by
      refine Nat.lt_of_lt_of_le Nat.lt_log2_self (Nat.pow_le_pow_right Nat.zero_lt_two less)
    have above : 2 ^ (second / divisor).log2 ≤ second / divisor := Nat.log2_self_le nonzero
    refine Nat.le_trans (roundUnits_le_two_pow positive (Nat.le_of_lt ?_))
      (two_pow_le_roundUnits positive ((Nat.le_div_iff_mul_le positive).mp above))
    exact (Nat.div_lt_iff_lt_mul positive).mp below
  · have spaced : spacing first divisor = spacing second divisor := by
      unfold spacing
      rw [same]
    unfold roundUnits
    rw [spaced]
    exact Nat.mul_le_mul_right _ (nearestEven_mono notAbove)

/-- The first number lies before the second or at its place; what is not a number has no place. -/
def NotAfter (back front : Binary32) : Prop := back.less front = true ∨ back.agrees front = true

/-- Only the places of numbers on the line count for their order. -/
theorem NotAfter.congr {back front otherBack otherFront : Binary32} (ordered : back.NotAfter front)
    (sameBack : back.place? = otherBack.place?) (sameFront : front.place? = otherFront.place?) :
    otherBack.NotAfter otherFront := by
  unfold NotAfter less agrees at ordered ⊢
  rwa [← sameBack, ← sameFront]

theorem notAfter_iff {back front : Binary32} : back.NotAfter front ↔
    ∃ before after, back.place? = some before ∧ front.place? = some after ∧ before ≤ after := by
  unfold NotAfter less agrees
  cases back.place? <;> cases front.place? <;> simp [Int.le_iff_lt_or_eq]

/-- The number is not negative and so many units from zero; infinity counts as the first power of
two past the finite numbers. -/
inductive HasUnits : Binary32 → Nat → Prop
  | infinity : HasUnits (.infinity false) endUnits
  | finite {units : Nat} {representable : Representable units} :
    HasUnits (.finite false units representable) units

/-- Neither number is negative, and the first does not lie above the second. -/
def NotAbove (lower upper : Binary32) : Prop :=
  ∃ units more, HasUnits lower units ∧ HasUnits upper more ∧ units ≤ more

variable {lower upper : Binary32}

theorem hasUnits_ofQuotient (dividend divisor : Nat) :
    HasUnits (ofQuotient false dividend divisor) (min (roundUnits dividend divisor) endUnits) := by
  unfold ofQuotient
  split
  · next fits =>
    rw [Nat.min_eq_left (Nat.le_of_lt fits)]
    exact .finite
  · next past =>
    rw [Nat.min_eq_right (Nat.not_lt.mp past)]
    exact .infinity

private theorem notAbove_ofQuotient (positive : 0 < divisor) (notAbove : first ≤ second) :
    NotAbove (ofQuotient false first divisor) (ofQuotient false second divisor) := by
  have rounded := roundUnits_mono positive notAbove
  exact ⟨_, _, hasUnits_ofQuotient first divisor, hasUnits_ofQuotient second divisor, by omega⟩

theorem notAbove_ofInt {small large : Int} (natural : 0 ≤ small) (notAbove : small ≤ large) :
    NotAbove (ofInt small) (ofInt large) := by
  have sign : decide (small < 0) = false := decide_eq_false (by omega)
  have otherSign : decide (large < 0) = false := decide_eq_false (by omega)
  rw [ofInt, ofInt, ofRatio, ofRatio, sign, otherSign]
  exact notAbove_ofQuotient Nat.one_pos (Nat.mul_le_mul_right _ (by omega))

theorem NotAbove.mul {factor : Nat} (representable : Representable factor) (positive : 0 < factor)
    (ordered : NotAbove lower upper) :
    NotAbove (lower * .finite false factor representable)
      (upper * .finite false factor representable) := by
  have some : factor ≠ 0 := Nat.ne_of_gt positive
  have past : infinity false * .finite false factor representable = .infinity false := if_neg some
  obtain ⟨units, more, isLower, isUpper, notAbove⟩ := ordered
  cases isUpper with
  | infinity =>
    have isPast : HasUnits (infinity false * .finite false factor representable) endUnits := by
      rw [past]
      exact .infinity
    cases isLower with
    | infinity => exact ⟨_, _, isPast, isPast, Nat.le_refl _⟩
    | finite => exact ⟨_, _, hasUnits_ofQuotient _ _, isPast, Nat.min_le_right _ _⟩
  | @finite _ fits =>
    cases isLower with
    | infinity => exact absurd fits.1 (Nat.not_lt.mpr notAbove)
    | finite => exact notAbove_ofQuotient (by decide) (Nat.mul_le_mul_right _ notAbove)

/-- Reading numbers as pixels keeps their order if dropping the fraction does. -/
theorem NotAbove.toPxBy {drop : Bool → Nat → Int}
    (monotone : ∀ units more, units ≤ more → drop false units ≤ drop false more)
    (ordered : NotAbove lower upper) : (lower.toPxBy drop).val ≤ (upper.toPxBy drop).val := by
  obtain ⟨units, more, isLower, isUpper, notAbove⟩ := ordered
  cases isUpper with
  | infinity =>
    have last : ((infinity false).toPxBy drop).val = 2147483647 := by
      show (Px.saturate (signed false (2 ^ (32 : Nat)))).val = _
      decide
    rw [last]
    exact (lower.toPxBy drop).le_upper
  | @finite _ fits =>
    cases isLower with
    | infinity => exact absurd fits.1 (Nat.not_lt.mpr notAbove)
    | finite =>
      have dropped := monotone _ _ notAbove
      show (Px.saturate _).val ≤ (Px.saturate _).val
      rw [Px.val_saturate, Px.val_saturate]
      omega

theorem NotAbove.ceiling (ordered : NotAbove lower upper) :
    lower.ceiling.val ≤ upper.ceiling.val := by
  refine ordered.toPxBy fun units more notAbove => ?_
  simp only [Bool.false_eq_true, if_false]
  exact Int.ofNat_le.mpr (Nat.div_le_div_right (by omega))

end Handbook.Binary32
