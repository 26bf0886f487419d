/-!
Binary numbers of single precision. A finite number is a sign and a count of the smallest positive
step, `2 ^ -149`; it has at most 24 significant binary digits. Every operation forms its exact
quotient first and rounds it once, to the nearest number and to the even one on a tie.
-/

namespace Handbook

/-- Powers of natural numbers, those of the base library whatever else is imported. -/
abbrev natPower : Pow Nat Nat := instPowNat

attribute [local instance] natPower

/-- How many smallest steps make one: the numbers are counted in units of `2 ^ -149`. -/
def oneUnits : Nat := 2 ^ (149 : Nat)

/-- The count of units of the first power of two past every finite number. -/
def endUnits : Nat := 2 ^ (128 : Nat) * oneUnits

/-- The counts of units that are numbers: 24 significant binary digits below `2 ^ 128`. -/
def Representable (units : Nat) : Prop := units < endUnits ∧ 2 ^ (units.log2 - 23) ∣ units

instance (units : Nat) : Decidable (Representable units) := inferInstanceAs (Decidable (_ ∧ _))

/-- A single-precision number: not a number, an infinity, or a signed count of units. -/
inductive Binary32 where
  | nan
  | infinity (negative : Bool)
  | finite (negative : Bool) (units : Nat) (representable : Representable units)
deriving DecidableEq

namespace Binary32

/-- The whole number nearest to a quotient; the even one of two equally near. -/
def nearestEven (dividend divisor : Nat) : Nat :=
  let quotient := dividend / divisor
  let twice := 2 * (dividend % divisor)
  if twice < divisor ∨ twice = divisor ∧ quotient % 2 = 0 then quotient else quotient + 1

/-- The distance between neighbouring numbers around a quotient, as a power of two. -/
def spacing (dividend divisor : Nat) : Nat := (dividend / divisor).log2 - 23

/-- The count of units nearest to a quotient among those with 24 significant digits. -/
def roundUnits (dividend divisor : Nat) : Nat :=
  nearestEven dividend (divisor * 2 ^ spacing dividend divisor) * 2 ^ spacing dividend divisor

theorem nearestEven_le (dividend divisor : Nat) :
    nearestEven dividend divisor ≤ dividend / divisor + 1 := by
  unfold nearestEven
  simp only
  split <;> omega

theorem le_nearestEven (dividend divisor : Nat) :
    dividend / divisor ≤ nearestEven dividend divisor := by
  unfold nearestEven
  simp only
  split <;> omega

private theorem quotient_lt (dividend divisor : Nat) :
    dividend / (divisor * 2 ^ spacing dividend divisor) < 2 ^ (24 : Nat) := by
  rw [← Nat.div_div_eq_div_mul, Nat.div_lt_iff_lt_mul (Nat.two_pow_pos _), ← Nat.pow_add]
  refine Nat.lt_of_lt_of_le Nat.lt_log2_self (Nat.pow_le_pow_right (by decide) ?_)
  unfold spacing
  omega

private theorem significand_le (dividend divisor : Nat) :
    nearestEven dividend (divisor * 2 ^ spacing dividend divisor) ≤ 2 ^ (24 : Nat) :=
  Nat.le_trans (nearestEven_le _ _) (quotient_lt dividend divisor)

/-- A significand of at most 24 digits times a power of two has at most 24 significant digits. -/
theorem dvd_scaled {significand : Nat} (exponent : Nat) (short : significand ≤ 2 ^ (24 : Nat)) :
    2 ^ ((significand * 2 ^ exponent).log2 - 23) ∣ significand * 2 ^ exponent := by
  by_cases full : significand = 2 ^ (24 : Nat)
  · subst full
    rw [← Nat.pow_add, Nat.log2_two_pow]
    exact Nat.pow_dvd_pow 2 (by omega)
  · by_cases zero : significand * 2 ^ exponent = 0
    · rw [zero]
      exact Nat.dvd_zero _
    · have below : significand * 2 ^ exponent < 2 ^ (24 + exponent) := by
        rw [Nat.pow_add]
        exact (Nat.mul_lt_mul_right (Nat.two_pow_pos _)).mpr (by omega)
      have digits := (Nat.log2_lt zero).mpr below
      exact Nat.dvd_trans (Nat.pow_dvd_pow 2 (by omega)) (Nat.dvd_mul_left _ _)

theorem dvd_roundUnits (dividend divisor : Nat) :
    2 ^ ((roundUnits dividend divisor).log2 - 23) ∣ roundUnits dividend divisor :=
  dvd_scaled _ (significand_le dividend divisor)

/-- The number nearest to a quotient of unit counts; beyond the largest finite one, infinity. -/
def ofQuotient (negative : Bool) (dividend divisor : Nat) : Binary32 :=
  if fits : roundUnits dividend divisor < endUnits then
    .finite negative (roundUnits dividend divisor) ⟨fits, dvd_roundUnits dividend divisor⟩
  else .infinity negative

def zero (negative : Bool) : Binary32 := .finite negative 0 (by decide)

/-- The number nearest to a fraction. -/
def ofRatio (numerator : Int) (denominator : Nat) : Binary32 :=
  ofQuotient (decide (numerator < 0)) (numerator.natAbs * oneUnits) denominator

/-- The number nearest to a whole number. -/
def ofInt (value : Int) : Binary32 := ofRatio value 1

instance (digits : Nat) : OfNat Binary32 digits := ⟨ofInt digits⟩

instance : Inhabited Binary32 := ⟨zero false⟩

def signed (negative : Bool) (units : Nat) : Int := if negative then -units else units

/-- The place of a number on the line, counted in units; infinities lie beyond every finite number
and what is not a number has no place. -/
def place? : Binary32 → Option Int
  | .nan => none
  | .infinity negative => some (signed negative endUnits)
  | .finite negative units _ => some (signed negative units)

/-- The place is known and lies before the other's. -/
def less (first second : Binary32) : Bool :=
  match first.place?, second.place? with
  | some before, some after => decide (before < after)
  | _, _ => false

/-- Equal as numbers: the two zeros agree and what is not a number equals nothing. -/
def agrees (first second : Binary32) : Bool :=
  match first.place?, second.place? with
  | some before, some after => decide (before = after)
  | _, _ => false

def isNaN : Binary32 → Bool
  | .nan => true
  | _ => false

end Binary32

end Handbook
