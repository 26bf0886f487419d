import Handbook.Binary32.Basic

/-!
The 32-bit form of single-precision numbers: a sign bit, eight bits of exponent and 23 bits of
significand. All forms of what is not a number read as one value, which is written as the quiet one.
-/

namespace Handbook.Binary32

attribute [local instance] natPower

private theorem representable_scaled {significand exponent : Nat}
    (short : significand < 2 ^ (24 : Nat)) (low : exponent ≤ 253) :
    Representable (significand * 2 ^ exponent) := by
  refine ⟨?_, dvd_scaled exponent (Nat.le_of_lt short)⟩
  calc significand * 2 ^ exponent
      < 2 ^ (24 : Nat) * 2 ^ exponent := (Nat.mul_lt_mul_right (Nat.two_pow_pos _)).mpr short
    _ = 2 ^ (24 + exponent) := (Nat.pow_add 2 24 exponent).symm
    _ ≤ 2 ^ (128 + 149) := Nat.pow_le_pow_right (by decide) (by omega)
    _ = endUnits := Nat.pow_add 2 128 149

def ofBits (bits : UInt32) : Binary32 :=
  let word := bits.toNat
  let negative := decide (2 ^ (31 : Nat) ≤ word)
  let exponent := word / 2 ^ (23 : Nat) % 2 ^ (8 : Nat)
  let fraction := word % 2 ^ (23 : Nat)
  have short : fraction < 2 ^ (23 : Nat) := Nat.mod_lt _ (by decide)
  have low : exponent < 2 ^ (8 : Nat) := Nat.mod_lt _ (by decide)
  if special : exponent = 255 then if fraction = 0 then .infinity negative else .nan
  else if exponent = 0 then
    .finite negative (fraction * 2 ^ (0 : Nat)) (representable_scaled (by omega) (by omega))
  else
    .finite negative ((2 ^ (23 : Nat) + fraction) * 2 ^ (exponent - 1))
      (representable_scaled (by omega) (by omega))

/-- The exponent and significand fields of a count of units. -/
def fields (units : Nat) : Nat :=
  if units < 2 ^ (23 : Nat) then units
  else (units.log2 - 22) * 2 ^ (23 : Nat) + (units / 2 ^ (units.log2 - 23) - 2 ^ (23 : Nat))

def toBits : Binary32 → UInt32
  | .nan => 0x7fc00000
  | .infinity negative => if negative then 0xff800000 else 0x7f800000
  | .finite negative units _ => UInt32.ofNat (fields units + if negative then 2 ^ (31 : Nat) else 0)

end Handbook.Binary32
