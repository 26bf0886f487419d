import Handbook.Proofs.Binary32.Order

/-!
Shares of whole numbers. A whole number of at most 24 binary digits is a single-precision number
itself, so the share of it that a number from zero to one stands for begins with nothing, ends with
all of it and never shrinks in between. A share that is a quotient gives back the whole number that
it was formed of, as long as two roundings stay below half a pixel.
-/

namespace Handbook.Binary32

attribute [local instance] natPower

variable {units more divisor dividend number : Nat} {value : Binary32}

private theorem nearestEven_mul (positive : 0 < divisor) (units : Nat) :
    nearestEven (units * divisor) divisor = units := by
  unfold nearestEven
  simp [Nat.mul_div_cancel _ positive, positive]

theorem roundUnits_mul (positive : 0 < divisor) (representable : Representable units) :
    roundUnits (units * divisor) divisor = units := by
  obtain ⟨-, significand, isUnits⟩ := representable
  have spaced : spacing (units * divisor) divisor = units.log2 - 23 := by
    rw [spacing, Nat.mul_div_cancel _ positive]
  have scaled : units * divisor = significand * (divisor * 2 ^ (units.log2 - 23)) := by
    calc units * divisor = 2 ^ (units.log2 - 23) * significand * divisor := by rw [← isUnits]
      _ = significand * (divisor * 2 ^ (units.log2 - 23)) := by ac_rfl
  rw [roundUnits, spaced, scaled, nearestEven_mul (Nat.mul_pos positive (Nat.two_pow_pos _)),
    Nat.mul_comm]
  exact isUnits.symm

private theorem roundUnits_zero (positive : 0 < divisor) :
    roundUnits (0 * oneUnits) divisor = 0 := by
  have unchanged := roundUnits_mul positive (by decide : Representable 0)
  rwa [Nat.zero_mul] at unchanged ⊢

theorem representable_whole (short : number ≤ 2 ^ (24 : Nat)) :
    Representable (number * oneUnits) := by
  refine ⟨?_, dvd_scaled 149 short⟩
  calc number * oneUnits ≤ 2 ^ (24 : Nat) * oneUnits := Nat.mul_le_mul_right _ short
    _ < endUnits := by decide

/-- A whole number of at most 24 binary digits is a number itself. -/
theorem ofInt_of_short {whole : Int} (short : whole.natAbs ≤ 2 ^ (24 : Nat)) :
    ofInt whole = .finite (decide (whole < 0)) (whole.natAbs * oneUnits)
      (representable_whole short) := by
  have representable := representable_whole short
  have rounded : roundUnits (whole.natAbs * oneUnits) 1 = whole.natAbs * oneUnits := by
    have unchanged := roundUnits_mul Nat.one_pos representable
    rwa [Nat.mul_one] at unchanged
  have fits : roundUnits (whole.natAbs * oneUnits) 1 < endUnits := by
    rw [rounded]
    exact representable.1
  rw [ofInt, ofRatio, ofQuotient, dif_pos fits]
  congr 1

theorem ofInt_natCast (short : number ≤ 2 ^ (24 : Nat)) :
    ofInt number = .finite false (number * oneUnits) (representable_whole short) := by
  have natural : decide ((number : Int) < 0) = false := decide_eq_false (by omega)
  have isWhole := @ofInt_of_short number short
  simp only [natural, Int.natAbs_natCast] at isWhole
  exact isWhole

/-- A whole number of at most 24 binary digits comes back from the conversion unchanged. -/
theorem truncate_ofInt_of_short {whole : Int} (short : whole.natAbs ≤ 2 ^ (24 : Nat)) :
    (ofInt whole).truncate.val = whole := by
  have positive : 0 < oneUnits := by decide
  have back : signed (decide (whole < 0)) (whole.natAbs * oneUnits / oneUnits : Nat) = whole := by
    rw [Nat.mul_div_cancel _ positive]
    unfold signed
    split <;> simp only [decide_eq_true_eq] at * <;> omega
  rw [ofInt_of_short short]
  show (Px.saturate (signed _ _)).val = whole
  rw [back]
  exact Px.saturate_of_inRange ⟨by omega, by omega⟩

theorem ofInt_eq_ofInt_iff {whole other : Int} (short : whole.natAbs ≤ 2 ^ (24 : Nat))
    (otherShort : other.natAbs ≤ 2 ^ (24 : Nat)) : ofInt whole = ofInt other ↔ whole = other := by
  constructor
  · intro same
    rw [← truncate_ofInt_of_short short, same, truncate_ofInt_of_short otherShort]
  · intro same
    rw [same]

/-- The number lies from zero to one, so many units from zero; a zero may bear any sign. -/
inductive IsShare : Binary32 → Nat → Prop
  | none (negative : Bool) : IsShare (zero negative) 0
  | part {units : Nat} {representable : Representable units} (notAbove : units ≤ oneUnits) :
    IsShare (.finite false units representable) units

theorem IsShare.le_oneUnits (share : IsShare value units) : units ≤ oneUnits := by
  cases share with
  | none => exact Nat.zero_le _
  | part notAbove => exact notAbove

private theorem less_eq {first second : Binary32} {before after : Int}
    (isFirst : first.place? = some before) (isSecond : second.place? = some after) :
    first.less second = decide (before < after) := by
  rw [less, isFirst, isSecond]

private theorem isShare_of_place? {place : Int} (isPlace : value.place? = some place)
    (natural : 0 ≤ place) (notPast : place ≤ oneUnits) : IsShare value place.toNat := by
  cases value with
  | nan => cases isPlace
  | infinity negative =>
    cases isPlace
    cases negative with
    | false => exact absurd notPast (by decide)
    | true => exact absurd natural (by decide)
  | finite negative units representable =>
    cases isPlace
    cases negative with
    | false => exact .part (Int.ofNat_le.mp notPast)
    | true =>
      -- The only number of negative sign that does not lie before zero is zero.
      have zero : units = 0 := by
        unfold signed at natural
        simp only [if_true] at natural
        omega
      subst zero
      exact .none true

/-- A number that is moved into the range from zero to one is a share. -/
theorem isShare_clampUnit {place : Int} (isPlace : value.place? = some place) :
    IsShare value.clampUnit (max 0 (min place oneUnits)).toNat := by
  have atZero : (0 : Binary32).place? = some 0 := by decide
  have atOne : (1 : Binary32).place? = some (oneUnits : Int) := by decide
  have positive : (0 : Int) < oneUnits := by decide
  unfold clampUnit clamp
  rw [less_eq isPlace atZero, less_eq atOne isPlace]
  simp only [decide_eq_true_eq]
  split
  · next negative =>
    rw [show (max 0 (min place oneUnits)).toNat = 0 by omega]
    exact .none false
  · next natural =>
    split
    · next past =>
      rw [show (max 0 (min place oneUnits)).toNat = oneUnits by omega]
      exact .part (Nat.le_refl _)
    · next notPast =>
      rw [show max 0 (min place oneUnits) = place by omega]
      exact isShare_of_place? isPlace (Int.not_lt.mp natural) (Int.not_lt.mp notPast)

private theorem isShare_of_nonpos {place : Int} (isPlace : value.place? = some place)
    (low : place ≤ 0) :
    IsShare value.clampUnit 0 := by
  have share := isShare_clampUnit isPlace
  rwa [show (max 0 (min place oneUnits)).toNat = 0 by omega] at share

private theorem isShare_of_oneUnits_le {place : Int} (isPlace : value.place? = some place)
    (high : oneUnits ≤ place) : IsShare value.clampUnit oneUnits := by
  have share := isShare_clampUnit isPlace
  rwa [show (max 0 (min place oneUnits)).toNat = oneUnits by omega] at share

/-- The pixels that a share of a whole number comes to. -/
def pixelsOf (units number : Nat) : Nat :=
  (2 * roundUnits (units * (number * oneUnits)) oneUnits + oneUnits) / (2 * oneUnits)

theorem pixelsOf_mono (number : Nat) (notAbove : units ≤ more) :
    pixelsOf units number ≤ pixelsOf more number := by
  have rounded : roundUnits (units * (number * oneUnits)) oneUnits ≤
      roundUnits (more * (number * oneUnits)) oneUnits :=
    roundUnits_mono (by decide) (Nat.mul_le_mul_right _ notAbove)
  exact Nat.div_le_div_right (by omega)

theorem pixelsOf_zero (number : Nat) : pixelsOf 0 number = 0 := by
  rw [pixelsOf, Nat.zero_mul]
  decide

/-- What is less than half a pixel away from a whole number is that many pixels. -/
theorem whole_of_close {rounded : Nat} (above : 2 * (number * oneUnits) ≤ 2 * rounded + oneUnits)
    (below : 2 * rounded < 2 * (number * oneUnits) + oneUnits) :
    (2 * rounded + oneUnits) / (2 * oneUnits) = number := by
  have start : number * (2 * oneUnits) = 2 * (number * oneUnits) := Nat.mul_left_comm ..
  apply Nat.div_eq_of_lt_le
  · rw [start]
    exact above
  · have next : (number + 1) * (2 * oneUnits) = 2 * (number * oneUnits) + 2 * oneUnits := by
      rw [Nat.succ_mul, start]
    omega

private theorem roundUnits_whole_share (short : number ≤ 2 ^ (24 : Nat)) :
    roundUnits (oneUnits * (number * oneUnits)) oneUnits = number * oneUnits := by
  rw [Nat.mul_comm]
  exact roundUnits_mul (by decide) (representable_whole short)

private theorem roundUnits_share_le (short : number ≤ 2 ^ (24 : Nat))
    (notAbove : units ≤ oneUnits) :
    roundUnits (units * (number * oneUnits)) oneUnits ≤ number * oneUnits := by
  calc roundUnits (units * (number * oneUnits)) oneUnits
      ≤ roundUnits (oneUnits * (number * oneUnits)) oneUnits :=
        roundUnits_mono (by decide) (Nat.mul_le_mul_right _ notAbove)
    _ = number * oneUnits := roundUnits_whole_share short

theorem pixelsOf_oneUnits (short : number ≤ 2 ^ (24 : Nat)) :
    pixelsOf oneUnits number = number := by
  have positive : 0 < oneUnits := by decide
  rw [pixelsOf, roundUnits_whole_share short]
  exact whole_of_close (by omega) (by omega)

theorem pixelsOf_le (short : number ≤ 2 ^ (24 : Nat)) (notAbove : units ≤ oneUnits) :
    pixelsOf units number ≤ number :=
  Nat.le_trans (pixelsOf_mono number notAbove) (Nat.le_of_eq (pixelsOf_oneUnits short))

/-- A share of a whole number is read as the pixels that it comes to. -/
theorem IsShare.round_mul (share : IsShare value units) (short : number ≤ 2 ^ (24 : Nat)) :
    (value * ofInt number).round.val = pixelsOf units number := by
  rw [ofInt_natCast short]
  cases share with
  | none negative =>
    have product : zero negative * .finite false (number * oneUnits) (representable_whole short) =
        ofQuotient (negative != false) (0 * (number * oneUnits)) oneUnits := rfl
    rw [product, pixelsOf_zero, Nat.zero_mul]
    cases negative <;> decide
  | @part units representable notAbove =>
    have product : Binary32.finite false units representable *
          .finite false (number * oneUnits) (representable_whole short) =
        ofQuotient false (units * (number * oneUnits)) oneUnits := rfl
    have pixels := pixelsOf_le short notAbove
    have rounded : roundUnits (units * (number * oneUnits)) oneUnits < endUnits :=
      Nat.lt_of_le_of_lt (roundUnits_share_le short notAbove) (representable_whole short).1
    have inRange : Px.InRange (pixelsOf units number : Int) := by
      unfold Px.InRange
      omega
    rw [product, ofQuotient, dif_pos rounded]
    exact Px.saturate_of_inRange inRange

/-- Rounding to a whole number errs by no more than half of one. -/
theorem nearestEven_near (dividend : Nat) (positive : 0 < divisor) :
    2 * dividend ≤ 2 * (nearestEven dividend divisor * divisor) + divisor ∧
      2 * (nearestEven dividend divisor * divisor) ≤ 2 * dividend + divisor := by
  have whole := Nat.div_add_mod dividend divisor
  have less := Nat.mod_lt dividend positive
  rw [Nat.mul_comm] at whole
  unfold nearestEven
  simp only
  split
  · omega
  · have next : (dividend / divisor + 1) * divisor = dividend / divisor * divisor + divisor :=
      Nat.succ_mul ..
    omega

/-- The relative error of a quotient that has 24 significant digits is at most `2 ^ -24`. -/
theorem roundUnits_near (positive : 0 < divisor) (normal : 2 ^ (23 : Nat) * divisor ≤ dividend) :
    2 ^ (24 : Nat) * dividend ≤
        2 ^ (24 : Nat) * (roundUnits dividend divisor * divisor) + dividend ∧
      2 ^ (24 : Nat) * (roundUnits dividend divisor * divisor) ≤
        2 ^ (24 : Nat) * dividend + dividend := by
  have quotient : 2 ^ (23 : Nat) ≤ dividend / divisor := (Nat.le_div_iff_mul_le positive).mpr normal
  have nonzero : dividend / divisor ≠ 0 := by omega
  have digits : 23 ≤ (dividend / divisor).log2 := (Nat.le_log2 nonzero).mpr quotient
  have step : 2 ^ (23 : Nat) * (divisor * 2 ^ spacing dividend divisor) ≤ dividend := by
    calc 2 ^ (23 : Nat) * (divisor * 2 ^ spacing dividend divisor)
        = 2 ^ (spacing dividend divisor + 23) * divisor := by
          rw [Nat.pow_add]
          ac_rfl
      _ = 2 ^ (dividend / divisor).log2 * divisor := by
          rw [spacing, Nat.sub_add_cancel digits]
      _ ≤ dividend := (Nat.le_div_iff_mul_le positive).mp (Nat.log2_self_le nonzero)
  have near := nearestEven_near dividend
    (Nat.mul_pos positive (Nat.two_pow_pos (spacing dividend divisor)))
  have rounded : nearestEven dividend (divisor * 2 ^ spacing dividend divisor) *
      (divisor * 2 ^ spacing dividend divisor) = roundUnits dividend divisor * divisor := by
    rw [roundUnits]
    ac_rfl
  rw [rounded] at near
  omega

/-- A whole number divided by a larger one and multiplied by it again is itself, read as pixels: the
two roundings stay below half a pixel as long as the larger one has 22 binary digits. -/
theorem pixelsOf_quotient {part whole : Nat} (positive : 0 < part) (less : part < whole)
    (short : whole < 2 ^ (22 : Nat)) :
    pixelsOf (roundUnits (part * oneUnits * oneUnits) (whole * oneUnits)) whole = part := by
  have one : 0 < oneUnits := by decide
  have large : 2 ^ (23 : Nat) * 2 ^ (22 : Nat) ≤ oneUnits := by decide
  have atLeast : oneUnits * oneUnits ≤ part * oneUnits * oneUnits := by
    rw [Nat.mul_assoc]
    exact Nat.le_mul_of_pos_left _ positive
  have atMost : part * oneUnits * oneUnits + 2 * (oneUnits * oneUnits) ≤
      2 ^ (22 : Nat) * (oneUnits * oneUnits) := by
    rw [Nat.mul_assoc, ← Nat.add_mul]
    exact Nat.mul_le_mul_right _ (by omega)
  have normal : 2 ^ (23 : Nat) * (whole * oneUnits) ≤ part * oneUnits * oneUnits := by
    refine Nat.le_trans ?_ atLeast
    rw [← Nat.mul_assoc]
    exact Nat.mul_le_mul_right _ (by omega)
  have divided := roundUnits_near (Nat.mul_pos (by omega) one) normal
  have normalAgain : 2 ^ (23 : Nat) * oneUnits ≤
      roundUnits (part * oneUnits * oneUnits) (whole * oneUnits) * (whole * oneUnits) := by
    have : 2 ^ (24 : Nat) * oneUnits ≤ oneUnits * oneUnits := Nat.mul_le_mul_right _ (by decide)
    omega
  have multiplied := roundUnits_near one normalAgain
  apply whole_of_close
  · apply Nat.le_of_mul_le_mul_right _ one
    rw [Nat.add_mul, Nat.mul_assoc, Nat.mul_assoc 2]
    omega
  · apply @Nat.lt_of_mul_lt_mul_right oneUnits
    rw [Nat.add_mul, Nat.mul_assoc, Nat.mul_assoc 2]
    omega

theorem place?_ofQuotient (negative : Bool) (dividend divisor : Nat) :
    (ofQuotient negative dividend divisor).place? =
      some (signed negative (min (roundUnits dividend divisor) endUnits)) := by
  unfold ofQuotient
  split
  · next fits =>
    rw [Nat.min_eq_left (Nat.le_of_lt fits)]
    rfl
  · next past =>
    rw [Nat.min_eq_right (Nat.not_lt.mp past)]
    rfl

/-- A quotient that is not rounded above one is a share as it is. -/
theorem isShare_ofQuotient (notAbove : roundUnits dividend divisor ≤ oneUnits) :
    IsShare (ofQuotient false dividend divisor).clampUnit (roundUnits dividend divisor) := by
  have past : oneUnits ≤ endUnits := by decide
  have share := isShare_clampUnit (place?_ofQuotient false dividend divisor)
  have same :
      (max 0 (min (signed false (min (roundUnits dividend divisor) endUnits)) oneUnits)).toNat =
        roundUnits dividend divisor := by
    rw [Nat.min_eq_left (Nat.le_trans notAbove past)]
    show (max 0 (min (roundUnits dividend divisor : Int) oneUnits)).toNat = _
    omega
  rwa [same] at share

section Quotients

variable {top : Px} {whole : Nat}

/-- The quotient of a pixel number and a whole number, before it is rounded. -/
theorem exists_quotient (top : Px) (positive : 0 < whole) (short : whole ≤ 2 ^ (24 : Nat)) :
    ∃ units representable, ofInt top.val = .finite (decide (top.val < 0)) units representable ∧
      ofInt top.val / ofInt whole =
        ofQuotient (decide (top.val < 0)) (units * oneUnits) (whole * oneUnits) := by
  have some : whole * oneUnits ≠ 0 := Nat.ne_of_gt (Nat.mul_pos positive (by decide))
  obtain ⟨units, representable, isTop, -⟩ := exists_ofInt_px top
  refine ⟨units, representable, isTop, ?_⟩
  rw [isTop, ofInt_natCast short]
  refine (if_neg some).trans ?_
  rw [Bool.bne_false]

private theorem isShare_quotient_of_nonpos (positive : 0 < whole) (short : whole ≤ 2 ^ (24 : Nat))
    (low : top.val ≤ 0) : IsShare (ofInt top.val / ofInt whole).clampUnit 0 := by
  obtain ⟨units, representable, isTop, quotient⟩ := exists_quotient top positive short
  rw [quotient]
  apply isShare_of_nonpos (place?_ofQuotient ..)
  rcases Int.lt_or_eq_of_le low with negative | zero
  · rw [decide_eq_true negative]
    simp only [signed, if_true]
    omega
  · have isZero : ofInt 0 = .finite false 0 (by decide) := by decide
    rw [zero, isZero] at isTop
    cases isTop
    rw [roundUnits_zero (Nat.mul_pos positive (by decide)), zero]
    decide

private theorem isShare_quotient_of_whole_le (positive : 0 < whole) (short : whole ≤ 2 ^ (24 : Nat))
    (high : whole ≤ top.val) : IsShare (ofInt top.val / ofInt whole).clampUnit oneUnits := by
  obtain ⟨units, representable, isTop, quotient⟩ := exists_quotient top positive short
  have sign : decide (top.val < 0) = false := decide_eq_false (by omega)
  rw [sign] at isTop quotient
  rw [quotient]
  apply isShare_of_oneUnits_le (place?_ofQuotient ..)
  obtain ⟨less, more, isLess, isMore, notAbove⟩ := notAbove_ofInt (by omega) high
  rw [ofInt_natCast short] at isLess
  rw [isTop] at isMore
  cases isLess
  cases isMore
  have atLeast : 2 ^ (149 : Nat) ≤ roundUnits (units * oneUnits) (whole * oneUnits) := by
    apply two_pow_le_roundUnits (Nat.mul_pos positive (by decide))
    rw [Nat.mul_comm]
    exact Nat.mul_le_mul_right _ notAbove
  exact Int.ofNat_le.mpr (Nat.le_min.mpr ⟨atLeast, by decide⟩)

private theorem isShare_quotient_of_lt {part : Nat} (less : part < whole)
    (short : whole ≤ 2 ^ (24 : Nat)) :
    IsShare (ofInt part / ofInt whole).clampUnit
      (roundUnits (part * oneUnits * oneUnits) (whole * oneUnits)) := by
  have some : whole * oneUnits ≠ 0 := Nat.ne_of_gt (Nat.mul_pos (by omega) (by decide))
  have quotient : ofInt part / ofInt whole =
      ofQuotient false (part * oneUnits * oneUnits) (whole * oneUnits) := by
    rw [ofInt_natCast short, ofInt_natCast (by omega)]
    exact if_neg some
  rw [quotient]
  apply isShare_ofQuotient
  apply roundUnits_le_two_pow (Nat.mul_pos (by omega) (by decide))
  rw [Nat.mul_comm]
  exact Nat.mul_le_mul_left _ (Nat.mul_le_mul_right _ (Nat.le_of_lt less))

/-- A pixel number divided by a whole number, moved into the range from zero to one and multiplied
by the whole number is the pixel number moved into the range up to the whole number. -/
theorem exists_isShare_quotient (top : Px) {whole : Nat} (positive : 0 < whole)
    (short : whole < 2 ^ (22 : Nat)) :
    ∃ units, IsShare (ofInt top.val / ofInt whole).clampUnit units ∧
      (pixelsOf units whole : Int) = max 0 (min top.val whole) := by
  have short24 : whole ≤ 2 ^ (24 : Nat) := by omega
  rcases Int.lt_or_le 0 top.val with above | low
  · rcases Int.lt_or_le top.val whole with below | high
    · obtain ⟨part, isPart⟩ := Int.eq_ofNat_of_zero_le (Int.le_of_lt above)
      rw [isPart] at above below ⊢
      refine ⟨_, isShare_quotient_of_lt (Int.ofNat_lt.mp below) short24, ?_⟩
      rw [pixelsOf_quotient (Int.ofNat_lt.mp above) (Int.ofNat_lt.mp below) short]
      omega
    · refine ⟨_, isShare_quotient_of_whole_le positive short24 high, ?_⟩
      rw [pixelsOf_oneUnits short24]
      omega
  · refine ⟨_, isShare_quotient_of_nonpos positive short24 low, ?_⟩
    rw [pixelsOf_zero]
    omega

end Quotients

end Handbook.Binary32
