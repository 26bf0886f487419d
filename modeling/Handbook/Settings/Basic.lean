import Handbook.Sheet.Sprite

namespace Handbook

structure Settings where
  /-- The size of the texture sheet. -/
  sheet : SheetSize := {}
  /-- The thickness of the frame border without its shadow. -/
  borderThickness : Px := 16
  /-- The shadow that the frame throws inwards. -/
  shadowThickness : Px := 6
  /-- The width of the line that parts the page from the rail. -/
  separatorThickness : Px := 5
  sliderWidth : Px := 12
  sliderHeight : Px := 15
  tabWidth : Px := 24
  tabHeight : Px := 24
  /-- The height of the tab of the open page and of the home button. -/
  fullTabHeight : Px := 32
  maxTabs : UInt64 := 10
  /-- The border of button tiles. -/
  tileBorder : Px := 2
  /-- The phase of the paper pattern. -/
  backgroundPhase : Px × Px := (7, 8)
  /-- The page that the home button opens. -/
  mainMenu : String := "/main_menu.md"
  /-- Draws lines around the column of page text. -/
  wireframe : Bool := false
deriving DecidableEq, Inhabited

namespace Settings

/-- Why settings cannot be used. -/
inductive Problem where
  | emptySheet
  | notPositive (field : String) (value : Px)
  | negative (field : String) (value : Px)
  | noTabs
  | noMainMenu
deriving DecidableEq

def Problem.message : Problem → String
  | .emptySheet => "atlas size must be positive"
  | .notPositive field value => s!"{field} must be positive, got {value.val}"
  | .negative field value => s!"{field} must not be negative, got {value.val}"
  | .noTabs => "max_tabs must be at least 1"
  | .noMainMenu => "main_menu path is empty"

/-- The sizes that have to be positive, under their written names and in the order of checking. -/
def positiveSizes (settings : Settings) : List (String × Px) :=
  [("border_thickness", settings.borderThickness), ("slider_width", settings.sliderWidth),
    ("slider_height", settings.sliderHeight), ("tab_width", settings.tabWidth),
    ("tab_height", settings.tabHeight), ("full_tab_height", settings.fullTabHeight)]

/-- The sizes that may be zero, under their written names and in the order of checking. -/
def naturalSizes (settings : Settings) : List (String × Px) :=
  [("shadow_thickness", settings.shadowThickness),
    ("separator_thickness", settings.separatorThickness), ("tile_border", settings.tileBorder)]

/-- The first problem of the settings: the sheet, then positive sizes, then the sizes that may be
zero, then the number of tabs and the opening page. -/
def problem? (settings : Settings) : Option Problem :=
  if settings.sheet.width = 0 ∨ settings.sheet.height = 0 then some .emptySheet
  else match settings.positiveSizes.find? (fun size => decide (size.2.val ≤ 0)) with
  | some (field, value) => some (.notPositive field value)
  | none => match settings.naturalSizes.find? (fun size => decide (size.2.val < 0)) with
    | some (field, value) => some (.negative field value)
    | none =>
      if settings.maxTabs = 0 then some .noTabs
      else if settings.mainMenu = "" then some .noMainMenu
      else none

/-- How wide the art of the book frame is: border and shadow together. -/
def frameCorner? (settings : Settings) : Option Px :=
  Px.fit? (settings.borderThickness.val + settings.shadowThickness.val)

end Settings

end Handbook
