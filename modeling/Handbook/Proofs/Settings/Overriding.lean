import Mathlib.Tactic.Choose
import Handbook.Proofs.Json.Members
import Handbook.Proofs.Settings.RoundTrip

namespace Handbook

open Json (NamedOnce)

namespace SheetSize

/-- The content gives the size: its sides by name, each of them once, or in order. -/
inductive MeantBy (size : SheetSize) : Json → Prop
  | byName {members : List (JsonText × Json)} (texts : none ∉ members.map Prod.fst)
      (width : NamedOnce members "width" (.ofInt size.width.toNat))
      (height : NamedOnce members "height" (.ofInt size.height.toNat)) :
      MeantBy size (.object members)
  | inOrder : MeantBy size (.array [.ofInt size.width.toNat, .ofInt size.height.toNat])

variable {content : Json} {size : SheetSize} {side : UInt32}

theorem side?_eq_some_iff : side? content = some side ↔ content = .ofInt side.toNat := by
  constructor
  · intro read
    obtain ⟨number, isNumber, rfl⟩ := Option.map_eq_some_iff.mp read
    obtain ⟨isContent, below⟩ := Json.toNatBelow?_eq_some_iff.mp isNumber
    rw [isContent, UInt32.toNat_ofNat_of_lt' below]
  · rintro rfl
    exact side?_ofInt side

theorem ofJson?_eq_some_iff : ofJson? content = some size ↔ size.MeantBy content := by
  constructor
  · intro read
    unfold ofJson? at read
    split at read
    · next members =>
      obtain ⟨width, isWidth, read⟩ := Option.bind_eq_some_iff.mp read
      obtain ⟨height, isHeight, read⟩ := Option.bind_eq_some_iff.mp read
      obtain ⟨texts, result⟩ := Option.ite_none_right_eq_some.mp read
      obtain ⟨first, firstNamed, isFirst⟩ := Json.field?_eq_some_iff.mp isWidth
      obtain ⟨second, secondNamed, isSecond⟩ := Json.field?_eq_some_iff.mp isHeight
      cases side?_eq_some_iff.mp isFirst
      cases side?_eq_some_iff.mp isSecond
      cases result
      exact .byName (Json.namesAreTexts_iff.mp texts) firstNamed secondNamed
    · obtain ⟨width, isWidth, read⟩ := Option.bind_eq_some_iff.mp read
      obtain ⟨height, isHeight, result⟩ := Option.bind_eq_some_iff.mp read
      cases side?_eq_some_iff.mp isWidth
      cases side?_eq_some_iff.mp isHeight
      cases result
      exact .inOrder
    · cases read
  · rintro (⟨texts, width, height⟩ | _)
    · have isWidth := Json.field?_eq_some_iff.mpr ⟨_, width, side?_ofInt size.width⟩
      have isHeight := Json.field?_eq_some_iff.mpr ⟨_, height, side?_ofInt size.height⟩
      simp [ofJson?, isWidth, isHeight, Json.namesAreTexts_iff.mpr texts]
    · simp [ofJson?]

end SheetSize

namespace Settings

inductive Kind where
  | sheet
  | size
  | limit
  | phase
  | text
  | flag

namespace Kind

def Value : Kind → Type
  | sheet => SheetSize
  | size => Px
  | limit => UInt64
  | phase => Px × Px
  | text => String
  | flag => Bool

/-- The content gives a value of the kind. -/
def Means : (kind : Kind) → kind.Value → Json → Prop
  | sheet, value, content => SheetSize.MeantBy value content
  | size, value, content => content = .ofInt (Px.val value)
  | limit, value, content => content = .ofInt (UInt64.toNat value)
  | phase, value, content => content = .array [.ofInt value.1.val, .ofInt value.2.val]
  | text, value, content => content = .ofText value
  | flag, value, content => content = .bool value

def read? : (kind : Kind) → Json → Option kind.Value
  | sheet => SheetSize.ofJson?
  | size => Json.toPx?
  | limit => tabLimit?
  | phase => Json.toPxPair?
  | text => Json.toText?
  | flag => Json.toBool?

end Kind

inductive Field where
  | sheet
  | borderThickness
  | shadowThickness
  | separatorThickness
  | sliderWidth
  | sliderHeight
  | tabWidth
  | tabHeight
  | fullTabHeight
  | maxTabs
  | tileBorder
  | backgroundPhase
  | mainMenu
  | wireframe
deriving DecidableEq

namespace Field

def all : List Field :=
  [sheet, borderThickness, shadowThickness, separatorThickness, sliderWidth, sliderHeight, tabWidth,
    tabHeight, fullTabHeight, maxTabs, tileBorder, backgroundPhase, mainMenu, wireframe]

private theorem mem_all (field : Field) : field ∈ all := by
  cases field <;> decide

/-- The name that a field is written under. -/
def key : Field → String
  | sheet => "atlas"
  | borderThickness => "border_thickness"
  | shadowThickness => "shadow_thickness"
  | separatorThickness => "separator_thickness"
  | sliderWidth => "slider_width"
  | sliderHeight => "slider_height"
  | tabWidth => "tab_width"
  | tabHeight => "tab_height"
  | fullTabHeight => "full_tab_height"
  | maxTabs => "max_tabs"
  | tileBorder => "tile_border"
  | backgroundPhase => "background_phase"
  | mainMenu => "main_menu"
  | wireframe => "debug_wireframe"

def kind : Field → Kind
  | sheet => .sheet
  | maxTabs => .limit
  | backgroundPhase => .phase
  | mainMenu => .text
  | wireframe => .flag
  | _ => .size

def get : (field : Field) → Settings → field.kind.Value
  | sheet, settings => settings.sheet
  | borderThickness, settings => settings.borderThickness
  | shadowThickness, settings => settings.shadowThickness
  | separatorThickness, settings => settings.separatorThickness
  | sliderWidth, settings => settings.sliderWidth
  | sliderHeight, settings => settings.sliderHeight
  | tabWidth, settings => settings.tabWidth
  | tabHeight, settings => settings.tabHeight
  | fullTabHeight, settings => settings.fullTabHeight
  | maxTabs, settings => settings.maxTabs
  | tileBorder, settings => settings.tileBorder
  | backgroundPhase, settings => settings.backgroundPhase
  | mainMenu, settings => settings.mainMenu
  | wireframe, settings => settings.wireframe

/-- The content gives a value of the field. -/
def Accepts (field : Field) (content : Json) : Prop := ∃ value, field.kind.Means value content

end Field

variable {members others : List (JsonText × Json)} {settings : Settings} {text : String}
  {content : Json}

def ofValues (values : (field : Field) → field.kind.Value) : Settings where
  sheet := values .sheet
  borderThickness := values .borderThickness
  shadowThickness := values .shadowThickness
  separatorThickness := values .separatorThickness
  sliderWidth := values .sliderWidth
  sliderHeight := values .sliderHeight
  tabWidth := values .tabWidth
  tabHeight := values .tabHeight
  fullTabHeight := values .fullTabHeight
  maxTabs := values .maxTabs
  tileBorder := values .tileBorder
  backgroundPhase := values .backgroundPhase
  mainMenu := values .mainMenu
  wireframe := values .wireframe

private theorem get_ofValues (values : (field : Field) → field.kind.Value) (field : Field) :
    field.get (ofValues values) = values field := by
  cases field <;> rfl

/-- A field that the members name has the value that they give, and any other field its standard
value. -/
def OverriddenBy (settings : Settings) (members : List (JsonText × Json)) : Prop :=
  ∀ field : Field,
    some field.key ∉ members.map Prod.fst ∧ field.get settings = field.get {} ∨
      ∃ content, NamedOnce members field.key content ∧ field.kind.Means (field.get settings) content

theorem tabLimit?_eq_some_iff {limit : UInt64} :
    tabLimit? content = some limit ↔ content = .ofInt limit.toNat := by
  constructor
  · intro read
    obtain ⟨number, isNumber, rfl⟩ := Option.map_eq_some_iff.mp read
    obtain ⟨isContent, below⟩ := Json.toNatBelow?_eq_some_iff.mp isNumber
    rw [isContent, UInt64.toNat_ofNat_of_lt' below]
  · rintro rfl
    exact tabLimit?_ofInt limit

/-- Each kind of value is read from what gives it and from nothing else. -/
theorem Kind.read?_eq_some_iff {kind : Kind} {value : kind.Value} :
    kind.read? content = some value ↔ kind.Means value content := by
  cases kind with
  | sheet => exact SheetSize.ofJson?_eq_some_iff
  | size => exact Json.toPx?_eq_some_iff
  | limit => exact tabLimit?_eq_some_iff
  | phase => exact Json.toPxPair?_eq_some_iff
  | text => exact Json.toText?_eq_some_iff
  | flag => exact Json.toBool?_eq_some_iff

def Field.read? (field : Field) (members : List (JsonText × Json)) : Option field.kind.Value :=
  Json.fieldOr? members field.key (field.get {}) field.kind.read?

theorem ofMembers?_eq_some_iff_read : ofMembers? members = some settings ↔
    Json.namesAreTexts members = true ∧
      ∀ field : Field, field.read? members = some (field.get settings) := by
  constructor
  · intro given
    obtain ⟨sheet, _, given⟩ := Option.bind_eq_some_iff.mp given
    obtain ⟨borderThickness, _, given⟩ := Option.bind_eq_some_iff.mp given
    obtain ⟨shadowThickness, _, given⟩ := Option.bind_eq_some_iff.mp given
    obtain ⟨separatorThickness, _, given⟩ := Option.bind_eq_some_iff.mp given
    obtain ⟨sliderWidth, _, given⟩ := Option.bind_eq_some_iff.mp given
    obtain ⟨sliderHeight, _, given⟩ := Option.bind_eq_some_iff.mp given
    obtain ⟨tabWidth, _, given⟩ := Option.bind_eq_some_iff.mp given
    obtain ⟨tabHeight, _, given⟩ := Option.bind_eq_some_iff.mp given
    obtain ⟨fullTabHeight, _, given⟩ := Option.bind_eq_some_iff.mp given
    obtain ⟨maxTabs, _, given⟩ := Option.bind_eq_some_iff.mp given
    obtain ⟨tileBorder, _, given⟩ := Option.bind_eq_some_iff.mp given
    obtain ⟨backgroundPhase, _, given⟩ := Option.bind_eq_some_iff.mp given
    obtain ⟨mainMenu, _, given⟩ := Option.bind_eq_some_iff.mp given
    obtain ⟨wireframe, _, given⟩ := Option.bind_eq_some_iff.mp given
    obtain ⟨texts, result⟩ := Option.ite_none_right_eq_some.mp given
    cases result
    refine ⟨texts, fun field => ?_⟩
    cases field <;> assumption
  · rintro ⟨texts, given⟩
    refine Option.bind_eq_some_iff.mpr ⟨_, given .sheet, ?_⟩
    refine Option.bind_eq_some_iff.mpr ⟨_, given .borderThickness, ?_⟩
    refine Option.bind_eq_some_iff.mpr ⟨_, given .shadowThickness, ?_⟩
    refine Option.bind_eq_some_iff.mpr ⟨_, given .separatorThickness, ?_⟩
    refine Option.bind_eq_some_iff.mpr ⟨_, given .sliderWidth, ?_⟩
    refine Option.bind_eq_some_iff.mpr ⟨_, given .sliderHeight, ?_⟩
    refine Option.bind_eq_some_iff.mpr ⟨_, given .tabWidth, ?_⟩
    refine Option.bind_eq_some_iff.mpr ⟨_, given .tabHeight, ?_⟩
    refine Option.bind_eq_some_iff.mpr ⟨_, given .fullTabHeight, ?_⟩
    refine Option.bind_eq_some_iff.mpr ⟨_, given .maxTabs, ?_⟩
    refine Option.bind_eq_some_iff.mpr ⟨_, given .tileBorder, ?_⟩
    refine Option.bind_eq_some_iff.mpr ⟨_, given .backgroundPhase, ?_⟩
    refine Option.bind_eq_some_iff.mpr ⟨_, given .mainMenu, ?_⟩
    refine Option.bind_eq_some_iff.mpr ⟨_, given .wireframe, ?_⟩
    exact if_pos texts

/-- The members give settings that they override, when their names are texts. -/
theorem ofMembers?_eq_some_iff : ofMembers? members = some settings ↔
    none ∉ members.map Prod.fst ∧ settings.OverriddenBy members := by
  simp only [ofMembers?_eq_some_iff_read, Json.namesAreTexts_iff, Field.read?,
    Json.fieldOr?_eq_some_iff, Kind.read?_eq_some_iff, OverriddenBy]

/-- Members that name each field at most once, by a value of it, override settings. -/
theorem exists_overriddenBy
    (once : ∀ field : Field, (members.map Prod.fst).count (some field.key) ≤ 1)
    (accepted : ∀ field : Field, ∀ content, (some field.key, content) ∈ members →
      field.Accepts content) : ∃ settings : Settings, settings.OverriddenBy members := by
  have each (field : Field) : ∃ value : field.kind.Value,
      some field.key ∉ members.map Prod.fst ∧ value = field.get {} ∨
        ∃ content, NamedOnce members field.key content ∧ field.kind.Means value content := by
    by_cases named : some field.key ∈ members.map Prod.fst
    · have exactly : (members.map Prod.fst).count (some field.key) = 1 :=
        Nat.le_antisymm (once field) (List.count_pos_iff.mpr named)
      obtain ⟨⟨name, content⟩, member, isName⟩ := List.mem_map.mp named
      cases isName
      obtain ⟨value, means⟩ := accepted field content member
      exact ⟨value, .inr ⟨content, ⟨exactly, member⟩, means⟩⟩
    · exact ⟨field.get {}, .inl ⟨named, rfl⟩⟩
  choose values given using each
  refine ⟨ofValues values, fun field => ?_⟩
  rw [get_ofValues]
  exact given field

theorem OverriddenBy.once (overridden : settings.OverriddenBy members) (field : Field) :
    (members.map Prod.fst).count (some field.key) ≤ 1 := by
  rcases overridden field with ⟨absent, -⟩ | ⟨content, named, -⟩
  · rw [List.count_eq_zero.mpr absent]
    exact Nat.zero_le 1
  · exact Nat.le_of_eq named.once

theorem OverriddenBy.accepts (overridden : settings.OverriddenBy members) {field : Field}
    (member : (some field.key, content) ∈ members) : field.Accepts content := by
  rcases overridden field with ⟨absent, -⟩ | ⟨only, named, means⟩
  · exact absurd (List.mem_map_of_mem member) absent
  · rw [← Json.mem_named, Json.namedOnce_iff.mp named, List.mem_singleton] at member
    exact ⟨_, member ▸ means⟩

/-- The member is under the name of a field. -/
def isKnown (member : JsonText × Json) : Bool :=
  Field.all.any fun field => member.1 == some field.key

private theorem named_known (field : Field) :
    Json.named (members.filter isKnown) field.key = Json.named members field.key := by
  unfold Json.named
  rw [List.filter_filter]
  congr 1
  refine List.filter_congr fun member _ => ?_
  by_cases isField : member.1 = some field.key
  · have known : isKnown member = true :=
      List.any_eq_true.mpr ⟨field, field.mem_all, beq_iff_eq.mpr isField⟩
    rw [known, Bool.and_true]
  · rw [beq_eq_false_iff_ne.mpr isField, Bool.false_and]

/-- Members under other names have no part in what is overridden. -/
theorem overriddenBy_known :
    settings.OverriddenBy (members.filter isKnown) ↔ settings.OverriddenBy members := by
  simp only [OverriddenBy, Json.namedOnce_iff, ← Json.named_eq_nil_iff, named_known]

theorem OverriddenBy.perm (order : members.Perm others)
    (overridden : settings.OverriddenBy members) : settings.OverriddenBy others := by
  have names := order.map Prod.fst
  intro field
  rcases overridden field with ⟨absent, standard⟩ | ⟨content, ⟨once, member⟩, means⟩
  · exact .inl ⟨fun named => absent (names.mem_iff.mpr named), standard⟩
  · exact .inr ⟨content, ⟨names.count_eq _ ▸ once, order.mem_iff.mp member⟩, means⟩

/-- Members that name the same fields by the same contents, in whatever order, give the same
settings. -/
theorem ofMembers?_eq_of_known (texts : none ∉ members.map Prod.fst)
    (otherTexts : none ∉ others.map Prod.fst)
    (sameKnown : (members.filter isKnown).Perm (others.filter isKnown)) :
    ofMembers? members = ofMembers? others := by
  apply Option.ext
  intro settings
  simp only [ofMembers?_eq_some_iff, texts, otherTexts, not_false_eq_true, true_and]
  rw [← overriddenBy_known, ← @overriddenBy_known others]
  exact ⟨OverriddenBy.perm sameKnown, OverriddenBy.perm sameKnown.symm⟩

private theorem ofText_of_overriddenBy (read : Json.read? text = some (.object members))
    (texts : none ∉ members.map Prod.fst) (overridden : settings.OverriddenBy members) :
    ofText text = settings.check.map fun _ => settings := by
  refine ofText_of_read ?_
  rw [read, Option.bind_some]
  exact ofMembers?_eq_some_iff.mpr ⟨texts, overridden⟩

private theorem ofText_of_not_overriddenBy (read : Json.read? text = some (.object members))
    (never : ∀ settings : Settings, none ∉ members.map Prod.fst → ¬ settings.OverriddenBy members) :
    ofText text = .error .malformedSettings := by
  have nothing : ofMembers? members = none := by
    refine Option.eq_none_iff_forall_ne_some.mpr fun settings given => ?_
    obtain ⟨texts, overridden⟩ := ofMembers?_eq_some_iff.mp given
    exact never settings texts overridden
  rw [ofText, read, Option.bind_some, ofJson?, nothing]

/-- A text that writes an object is read as it. When its names are texts and it names each field at
most once, by a value of it, it overrides settings, and the answer is those settings or why they
cannot be used; a field that is named twice or by something else, or a name that is no text, makes
it malformed. Neither the order of its members nor members under other names change the answer. -/
theorem ofText_overrides (members : List (JsonText × Json)) :
    (∀ text, (Json.object members).Writes text → Json.read? text = some (.object members)) ∧
    ∀ text, Json.read? text = some (.object members) →
      (none ∉ members.map Prod.fst →
        (∀ field : Field, (members.map Prod.fst).count (some field.key) ≤ 1) →
        (∀ field : Field, ∀ content, (some field.key, content) ∈ members → field.Accepts content) →
        (∃ settings : Settings, settings.OverriddenBy members) ∧
          ∀ settings : Settings, settings.OverriddenBy members →
            ofText text = settings.check.map fun _ => settings) ∧
      (none ∈ members.map Prod.fst ∨
        (∃ field : Field, 1 < (members.map Prod.fst).count (some field.key)) ∨
        (∃ field : Field, ∃ content,
          (some field.key, content) ∈ members ∧ ¬ field.Accepts content) →
        ofText text = .error .malformedSettings) ∧
      ∀ otherText others, Json.read? otherText = some (.object others) →
        none ∉ members.map Prod.fst → none ∉ others.map Prod.fst →
        (members.filter isKnown).Perm (others.filter isKnown) → ofText otherText = ofText text := by
  refine ⟨fun _ => Json.read?_of_writes, fun text read => ⟨?_, ?_, ?_⟩⟩
  · intro texts once accepted
    exact ⟨exists_overriddenBy once accepted, fun _ => ofText_of_overriddenBy read texts⟩
  · intro refused
    refine ofText_of_not_overriddenBy read fun settings texts overridden => ?_
    rcases refused with unnamed | ⟨field, twice⟩ | ⟨field, content, member, strange⟩
    · exact texts unnamed
    · exact Nat.not_lt.mpr (overridden.once field) twice
    · exact strange (overridden.accepts member)
  · intro otherText others readOther texts otherTexts sameKnown
    have same := ofMembers?_eq_of_known texts otherTexts sameKnown
    rw [ofText, ofText, read, readOther, Option.bind_some, Option.bind_some, ofJson?, ofJson?, same]

/-- Two fields beside a member of another name, the same fields in another order, a field that is
named twice, and a sheet size without a height. -/
theorem ofText_overrides_inParts :
    let phase : Json := .array [.ofInt 0, .ofInt 0]
    let partly := [("max_tabs", .ofInt 3), ("note", .null), ("background_phase", phase)]
    let turned := [("background_phase", phase), ("max_tabs", .ofInt 3)]
    let twice := [("max_tabs", .ofInt 3), ("note", .null), ("max_tabs", .ofInt 3)]
    let narrow := [("atlas", .ofMembers [("width", .ofInt 64)])]
    let expected : Settings := { maxTabs := 3, backgroundPhase := (0, 0) }
    (Json.ofMembers partly).Writes (Json.ofMembers partly).toCompact ∧
      expected.OverriddenBy (partly.map fun member => (some member.1, member.2)) ∧
      ofText (Json.ofMembers partly).toCompact = .ok expected ∧
      ofText (Json.ofMembers turned).toCompact = .ok expected ∧
      ofText (Json.ofMembers twice).toCompact = .error .malformedSettings ∧
      ¬ Field.sheet.Accepts (.ofMembers [("width", .ofInt 64)]) ∧
      ofText (Json.ofMembers narrow).toCompact = .error .malformedSettings := by
  intro phase partly turned twice narrow expected
  have wellFormed : phase.WellFormed := .array (by simp [Json.WellFormed.ofInt])
  have writesPartly : (Json.ofMembers partly).Writes (Json.ofMembers partly).toCompact := by
    refine (Json.WellFormed.object ?_).writes_toCompact
    simp only [partly, List.forall_mem_cons]
    exact ⟨.ofInt _, .null, wellFormed, List.forall_mem_nil _⟩
  have writesTurned : (Json.ofMembers turned).Writes (Json.ofMembers turned).toCompact := by
    refine (Json.WellFormed.object ?_).writes_toCompact
    simp only [turned, List.forall_mem_cons]
    exact ⟨wellFormed, .ofInt _, List.forall_mem_nil _⟩
  have writesTwice : (Json.ofMembers twice).Writes (Json.ofMembers twice).toCompact := by
    refine (Json.WellFormed.object ?_).writes_toCompact
    simp only [twice, List.forall_mem_cons]
    exact ⟨.ofInt _, .null, .ofInt _, List.forall_mem_nil _⟩
  have writesNarrow : (Json.ofMembers narrow).Writes (Json.ofMembers narrow).toCompact := by
    refine (Json.WellFormed.object ?_).writes_toCompact
    simp only [narrow, List.forall_mem_cons]
    exact ⟨.object (by simp [Json.WellFormed.ofInt]), List.forall_mem_nil _⟩
  have noHeight : ¬ Field.sheet.Accepts (.ofMembers [("width", .ofInt 64)]) := by
    rintro ⟨size, means⟩
    cases SheetSize.ofJson?_eq_some_iff.mpr means
  obtain ⟨texts, overridden⟩ := ofMembers?_eq_some_iff.mp (show ofMembers?
    (partly.map fun member => (some member.1, member.2)) = some expected from rfl)
  obtain ⟨readsPartly, answersPartly⟩ := ofText_overrides _
  obtain ⟨overrides, -, independent⟩ := answersPartly _ (readsPartly _ writesPartly)
  have isExpected : ofText (Json.ofMembers partly).toCompact = .ok expected :=
    (overrides texts overridden.once fun _ _ => overridden.accepts).2 expected overridden
  have readTurned := (ofText_overrides _).1 _ writesTurned
  have sameAnswer := independent _ _ readTurned texts (by decide) (.swap _ _ _)
  refine ⟨writesPartly, overridden, isExpected, sameAnswer.trans isExpected, ?_, noHeight, ?_⟩
  · obtain ⟨reads, answers⟩ := ofText_overrides _
    exact (answers _ (reads _ writesTwice)).2.1 (.inr (.inl ⟨.maxTabs, by decide⟩))
  · obtain ⟨reads, answers⟩ := ofText_overrides _
    exact (answers _ (reads _ writesNarrow)).2.1
      (.inr (.inr ⟨.sheet, _, List.mem_singleton_self _, noHeight⟩))

end Settings

end Handbook
