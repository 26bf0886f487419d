import Handbook.Fault
import Handbook.Files.Basic
import Handbook.Json.Printer
import Handbook.Json.Reader

/-!
The written form of settings. An object names any of the fields, in any order and each at most once;
fields that it does not name keep their standard value and other names are skipped. An array gives
the fields in their order and may end early.
-/

namespace Handbook

namespace Json

def toPx? (value : Json) : Option Px := value.toInt?.bind Px.fit?

def toNatBelow? (limit : Nat) (value : Json) : Option Nat :=
  value.toInt?.bind fun number =>
    if 0 ≤ number ∧ number < limit then some number.toNat else none

def toPxPair? : Json → Option (Px × Px)
  | .array [first, second] => do return (← first.toPx?, ← second.toPx?)
  | _ => none

/-- The members that have this name. -/
def named (members : List (JsonText × Json)) (name : String) : List Json :=
  (members.filter fun member => member.1 == some name).map Prod.snd

/-- The field with this name: `standard` when no member has the name, refused when several do. -/
def fieldOr? {α : Type} (members : List (JsonText × Json)) (name : String) (standard : α)
    (read : Json → Option α) : Option α :=
  match named members name with
  | [] => some standard
  | [value] => read value
  | _ => none

/-- The field with this name, which exactly one member must have. -/
def field? {α : Type} (members : List (JsonText × Json)) (name : String)
    (read : Json → Option α) : Option α :=
  match named members name with
  | [value] => read value
  | _ => none

/-- The item at this place, `standard` past the end. -/
def itemOr? {α : Type} (items : List Json) (place : Nat) (standard : α)
    (read : Json → Option α) : Option α :=
  match items[place]? with
  | some value => read value
  | none => some standard

def namesAreTexts (members : List (JsonText × Json)) : Bool :=
  members.all fun member => member.1.isSome

end Json

namespace SheetSize

/-- A side of a sheet: a whole number of 32 bits. -/
def side? (value : Json) : Option UInt32 :=
  (value.toNatBelow? UInt32.size).map UInt32.ofNat

def ofJson? : Json → Option SheetSize
  | .object members => do
    let width ← Json.field? members "width" side?
    let height ← Json.field? members "height" side?
    if Json.namesAreTexts members then some ⟨width, height⟩ else none
  | .array [width, height] => do return ⟨← side? width, ← side? height⟩
  | _ => none

def toJson (size : SheetSize) : Json :=
  .ofMembers [("width", .ofInt size.width.toNat), ("height", .ofInt size.height.toNat)]

end SheetSize

namespace Settings

/-- A number of tabs: a whole number of 64 bits. -/
def tabLimit? (value : Json) : Option UInt64 :=
  (value.toNatBelow? UInt64.size).map UInt64.ofNat

def ofMembers? (members : List (JsonText × Json)) : Option Settings := do
  let standard : Settings := {}
  let sheet ← Json.fieldOr? members "atlas" standard.sheet SheetSize.ofJson?
  let borderThickness ←
    Json.fieldOr? members "border_thickness" standard.borderThickness Json.toPx?
  let shadowThickness ←
    Json.fieldOr? members "shadow_thickness" standard.shadowThickness Json.toPx?
  let separatorThickness ←
    Json.fieldOr? members "separator_thickness" standard.separatorThickness Json.toPx?
  let sliderWidth ← Json.fieldOr? members "slider_width" standard.sliderWidth Json.toPx?
  let sliderHeight ← Json.fieldOr? members "slider_height" standard.sliderHeight Json.toPx?
  let tabWidth ← Json.fieldOr? members "tab_width" standard.tabWidth Json.toPx?
  let tabHeight ← Json.fieldOr? members "tab_height" standard.tabHeight Json.toPx?
  let fullTabHeight ← Json.fieldOr? members "full_tab_height" standard.fullTabHeight Json.toPx?
  let maxTabs ← Json.fieldOr? members "max_tabs" standard.maxTabs tabLimit?
  let tileBorder ← Json.fieldOr? members "tile_border" standard.tileBorder Json.toPx?
  let backgroundPhase ←
    Json.fieldOr? members "background_phase" standard.backgroundPhase Json.toPxPair?
  let mainMenu ← Json.fieldOr? members "main_menu" standard.mainMenu Json.toText?
  let wireframe ← Json.fieldOr? members "debug_wireframe" standard.wireframe Json.toBool?
  if Json.namesAreTexts members then
    some {
      sheet, borderThickness, shadowThickness, separatorThickness, sliderWidth, sliderHeight,
      tabWidth, tabHeight, fullTabHeight, maxTabs, tileBorder, backgroundPhase, mainMenu, wireframe }
  else none

/-- The settings that the items of an array give in order. -/
def ofItems? (items : List Json) : Option Settings := do
  let standard : Settings := {}
  let sheet ← Json.itemOr? items 0 standard.sheet SheetSize.ofJson?
  let borderThickness ← Json.itemOr? items 1 standard.borderThickness Json.toPx?
  let shadowThickness ← Json.itemOr? items 2 standard.shadowThickness Json.toPx?
  let separatorThickness ← Json.itemOr? items 3 standard.separatorThickness Json.toPx?
  let sliderWidth ← Json.itemOr? items 4 standard.sliderWidth Json.toPx?
  let sliderHeight ← Json.itemOr? items 5 standard.sliderHeight Json.toPx?
  let tabWidth ← Json.itemOr? items 6 standard.tabWidth Json.toPx?
  let tabHeight ← Json.itemOr? items 7 standard.tabHeight Json.toPx?
  let fullTabHeight ← Json.itemOr? items 8 standard.fullTabHeight Json.toPx?
  let maxTabs ← Json.itemOr? items 9 standard.maxTabs tabLimit?
  let tileBorder ← Json.itemOr? items 10 standard.tileBorder Json.toPx?
  let backgroundPhase ← Json.itemOr? items 11 standard.backgroundPhase Json.toPxPair?
  let mainMenu ← Json.itemOr? items 12 standard.mainMenu Json.toText?
  let wireframe ← Json.itemOr? items 13 standard.wireframe Json.toBool?
  if items.length ≤ 14 then
    some {
      sheet, borderThickness, shadowThickness, separatorThickness, sliderWidth, sliderHeight,
      tabWidth, tabHeight, fullTabHeight, maxTabs, tileBorder, backgroundPhase, mainMenu, wireframe }
  else none

def ofJson? : Json → Option Settings
  | .object members => ofMembers? members
  | .array items => ofItems? items
  | _ => none

/-- The object that names every field in order. -/
def toJson (settings : Settings) : Json :=
  .ofMembers [
    ("atlas", settings.sheet.toJson),
    ("border_thickness", .ofInt settings.borderThickness.val),
    ("shadow_thickness", .ofInt settings.shadowThickness.val),
    ("separator_thickness", .ofInt settings.separatorThickness.val),
    ("slider_width", .ofInt settings.sliderWidth.val),
    ("slider_height", .ofInt settings.sliderHeight.val),
    ("tab_width", .ofInt settings.tabWidth.val),
    ("tab_height", .ofInt settings.tabHeight.val),
    ("full_tab_height", .ofInt settings.fullTabHeight.val),
    ("max_tabs", .ofInt settings.maxTabs.toNat),
    ("tile_border", .ofInt settings.tileBorder.val),
    ("background_phase", .array
      [.ofInt settings.backgroundPhase.1.val, .ofInt settings.backgroundPhase.2.val]),
    ("main_menu", .ofText settings.mainMenu),
    ("debug_wireframe", .bool settings.wireframe)]

def toText (settings : Settings) : String := settings.toJson.toCompact

/-- The usable settings of a text. -/
def ofText (text : String) : Except Fault Settings :=
  match (Json.read? text).bind ofJson? with
  | none => .error .malformedSettings
  | some settings => do
    settings.check
    return settings

/-- The usable settings of a file, given its bytes or the news that it cannot be read. -/
def ofBytes (bytes? : Option ByteArray) : Except Fault Settings :=
  match bytes?.bind String.fromUTF8? with
  | none => .error .unreadableSettings
  | some text => ofText text

def load (files : Files) (path : String) : Except Fault Settings := ofBytes (files.read? path)

end Settings

end Handbook
