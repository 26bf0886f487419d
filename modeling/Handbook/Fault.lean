import Handbook.Settings.Basic

namespace Handbook

/-- Why an operation has no answer. -/
inductive Fault where
  /-- A pixel number left its range. -/
  | overflow
  /-- A sprite would have no pixel. -/
  | emptySprite (width height : Px)
  /-- A sprite does not lie on its sheet. -/
  | outsideSheet (sprite : Sprite) (size : SheetSize)
  /-- The middle of a nine-slice touches an edge. -/
  | looseNineSlice
  /-- The settings cannot be used. -/
  | badSettings (problem : Settings.Problem)
  /-- The settings are no well-formed text of settings. -/
  | malformedSettings
  /-- The settings cannot be read. -/
  | unreadableSettings
  /-- The pages cannot be read. -/
  | unreadablePages
deriving DecidableEq

namespace Fault

def message : Fault → String
  | .overflow => "a pixel number left its range"
  | .emptySprite width height =>
    s!"Atlas region must have a positive size, got {width.val}x{height.val}"
  | .outsideSheet sprite size =>
    s!"Atlas region ({sprite.left.val}, {sprite.top.val}, {sprite.width.val}x{sprite.height.val}) " ++
      s!"lies outside the {size.width}x{size.height} atlas"
  | .looseNineSlice => "Nine-slice inner region must lie strictly inside the outer region"
  | .badSettings problem => s!"Invalid configuration: {problem.message}"
  | .malformedSettings => "JSON error"
  | .unreadableSettings => "I/O error"
  | .unreadablePages => "Failed to read pages"

/-- The answer, or overflow when there is none. -/
def ofOption {α : Type} : Option α → Except Fault α
  | some answer => .ok answer
  | none => .error .overflow

theorem ofOption_eq_ok_iff {α : Type} {option : Option α} {answer : α} :
    ofOption option = .ok answer ↔ option = some answer := by
  cases option <;> simp [ofOption]

theorem toOption_eq_some_iff {α : Type} {result : Except Fault α} {answer : α} :
    result.toOption = some answer ↔ result = .ok answer := by
  cases result <;> simp [Except.toOption]

theorem bind_eq_ok_iff {α β : Type} {first : Except Fault α} {next : α → Except Fault β}
    {answer : β} :
    first >>= next = .ok answer ↔ ∃ middle, first = .ok middle ∧ next middle = .ok answer := by
  cases first <;> simp [bind, Except.bind]

end Fault

def Settings.check (settings : Settings) : Except Fault Unit :=
  match settings.problem? with
  | some problem => .error (.badSettings problem)
  | none => .ok ()

/-- The sprite of a near corner and a size, which has to be positive. -/
def Sprite.of (left top width height : Px) : Except Fault Sprite :=
  match Sprite.ofSize? left top width height with
  | some sprite => .ok sprite
  | none => .error (.emptySprite width height)

/-- Accepts a sprite that lies on the sheet. -/
def SheetSize.check (size : SheetSize) (sprite : Sprite) : Except Fault Unit := do
  if ← Fault.ofOption (size.holds? sprite) then return ()
  else throw (.outsideSheet sprite size)

end Handbook
