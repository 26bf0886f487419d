import Handbook.Binary32.Basic

namespace Handbook.Binary32

def neg : Binary32 → Binary32
  | .nan => .nan
  | .infinity negative => .infinity !negative
  | .finite negative units representable => .finite (!negative) units representable

/-- The rounded sum. An exact zero is positive unless both terms are negative zeros. -/
def add : Binary32 → Binary32 → Binary32
  | .nan, _ => .nan
  | _, .nan => .nan
  | .infinity first, .infinity second => if first = second then .infinity first else .nan
  | .infinity negative, .finite _ _ _ => .infinity negative
  | .finite _ _ _, .infinity negative => .infinity negative
  | .finite first units _, .finite second more _ =>
    let total := signed first units + signed second more
    if total = 0 then zero (first && second)
    else ofQuotient (decide (total < 0)) total.natAbs 1

def sub (first second : Binary32) : Binary32 := add first second.neg

/-- The rounded product; zero times infinity is not a number. -/
def mul : Binary32 → Binary32 → Binary32
  | .nan, _ => .nan
  | _, .nan => .nan
  | .infinity first, .infinity second => .infinity (first != second)
  | .infinity first, .finite second units _ =>
    if units = 0 then .nan else .infinity (first != second)
  | .finite first units _, .infinity second =>
    if units = 0 then .nan else .infinity (first != second)
  | .finite first units _, .finite second more _ =>
    ofQuotient (first != second) (units * more) oneUnits

/-- The rounded quotient; a number over zero is infinite, zero over zero is not a number. -/
def div : Binary32 → Binary32 → Binary32
  | .nan, _ => .nan
  | _, .nan => .nan
  | .infinity _, .infinity _ => .nan
  | .infinity first, .finite second _ _ => .infinity (first != second)
  | .finite first _ _, .infinity second => zero (first != second)
  | .finite first units _, .finite second more _ =>
    if more = 0 then if units = 0 then .nan else .infinity (first != second)
    else ofQuotient (first != second) (units * oneUnits) more

instance : Neg Binary32 := ⟨neg⟩

instance : Add Binary32 := ⟨add⟩

instance : Sub Binary32 := ⟨sub⟩

instance : Mul Binary32 := ⟨mul⟩

instance : Div Binary32 := ⟨div⟩

/-- The larger of two numbers; what is not a number gives way to the other. -/
def larger (first second : Binary32) : Binary32 :=
  if first.isNaN then second
  else if second.isNaN then first
  else if first.less second then second else first

/-- The number moved to the nearer end of a range when it lies outside. -/
def clamp (low high value : Binary32) : Binary32 :=
  if value.less low then low else if high.less value then high else value

/-- The number moved into the range from zero to one. -/
def clampUnit (value : Binary32) : Binary32 := clamp 0 1 value

end Handbook.Binary32
