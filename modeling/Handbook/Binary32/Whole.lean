import Handbook.Binary32.Basic
import Handbook.Px

/-!
From single-precision numbers to pixels. The three readings differ only in how they drop the
fraction; each goes to the nearer end of the pixel range when the number lies outside, and what is
not a number reads as zero.
-/

namespace Handbook.Binary32

attribute [local instance] natPower

/-- Reads a number as a pixel, `drop` telling the whole number of a sign and a count of units. -/
def toPxBy (drop : Bool → Nat → Int) : Binary32 → Px
  | .nan => 0
  | .infinity negative => Px.saturate (signed negative (2 ^ (32 : Nat)))
  | .finite negative units _ => Px.saturate (drop negative units)

/-- The pixel reached by dropping the fraction. -/
def truncate : Binary32 → Px :=
  toPxBy fun negative units => signed negative (units / oneUnits)

/-- The first pixel not below the number. -/
def ceiling : Binary32 → Px :=
  toPxBy fun negative units =>
    if negative then -(units / oneUnits : Nat) else ((units + (oneUnits - 1)) / oneUnits : Nat)

/-- The pixel nearest to the number; a half goes away from zero. -/
def round : Binary32 → Px :=
  toPxBy fun negative units => signed negative ((2 * units + oneUnits) / (2 * oneUnits))

end Handbook.Binary32
