import Handbook.Proofs.Json.Members
import Handbook.Proofs.Json.Reading

namespace Handbook

namespace Json

theorem WellFormed.ofInt (value : Int) : (ofInt value).WellFormed := .number (.ofInt value)

end Json

namespace SheetSize

@[simp]
theorem side?_ofInt (side : UInt32) : side? (.ofInt side.toNat) = some side := by
  rw [side?, Json.toNatBelow?_ofInt side.toNat_lt_size, Option.map_some, UInt32.ofNat_toNat]

@[simp]
theorem ofJson?_toJson (size : SheetSize) : ofJson? size.toJson = some size := by
  simp [toJson, Json.ofMembers, ofJson?, Json.field?, Json.named, Json.namesAreTexts]

theorem wellFormed_toJson (size : SheetSize) : size.toJson.WellFormed := by
  refine .object ?_
  simp only [List.forall_mem_cons]
  exact ⟨.ofInt _, .ofInt _, List.forall_mem_nil _⟩

end SheetSize

namespace Settings

@[simp]
theorem tabLimit?_ofInt (limit : UInt64) : tabLimit? (.ofInt limit.toNat) = some limit := by
  rw [tabLimit?, Json.toNatBelow?_ofInt limit.toNat_lt_size, Option.map_some, UInt64.ofNat_toNat]

private theorem ofJson?_toJson (settings : Settings) : ofJson? settings.toJson = some settings := by
  simp [toJson, Json.ofMembers, ofJson?, ofMembers?, Json.fieldOr?, Json.named, Json.namesAreTexts]

theorem wellFormed_toJson (settings : Settings) : settings.toJson.WellFormed := by
  have phase : (Json.array [.ofInt settings.backgroundPhase.1.val,
      .ofInt settings.backgroundPhase.2.val]).WellFormed := by
    refine .array ?_
    simp only [List.forall_mem_cons]
    exact ⟨.ofInt _, .ofInt _, List.forall_mem_nil _⟩
  refine .object ?_
  simp only [List.forall_mem_cons]
  exact ⟨settings.sheet.wellFormed_toJson, .ofInt _, .ofInt _, .ofInt _, .ofInt _, .ofInt _,
    .ofInt _, .ofInt _, .ofInt _, .ofInt _, .ofInt _, phase, .string _, .bool _,
    List.forall_mem_nil _⟩

theorem ofText_of_read {settings : Settings} {text : String}
    (read : (Json.read? text).bind ofJson? = some settings) :
    ofText text = settings.check.map fun _ => settings := by
  rw [ofText, read]
  show (settings.check >>= fun _ => pure settings) = _
  cases settings.check <;> rfl

/-- Whatever the values of its fields, settings that can be used are read back from every text that
writes them, and settings that cannot are refused there for the same reason as by the check. The
texts without any space and with indentation are two of them. -/
theorem ofText_roundTrip (settings : Settings) :
    (∀ text, settings.toJson.Writes text → ofText text = settings.check.map fun _ => settings) ∧
      settings.toJson.Writes settings.toText ∧ settings.toJson.Writes settings.toJson.toIndented := by
  refine ⟨fun text writes => ofText_of_read ?_, settings.wellFormed_toJson.writes_toCompact,
    settings.wellFormed_toJson.writes_toIndented⟩
  rw [Json.read?_of_writes writes, Option.bind_some, ofJson?_toJson]

/-- Fields at the ends of their ranges, and a path of characters that have to be escaped; with no tab
the same settings are refused. -/
theorem ofText_roundTrip_farEnds :
    let settings : Settings := {
      sheet := ⟨4294967295, 1⟩, borderThickness := 2147483647, maxTabs := 18446744073709551615
      backgroundPhase := (Px.saturate (-2147483648), 2147483647)
      mainMenu := "\"\\/\n\u0001\u007f\u2028ä😀" }
    let refused := { settings with maxTabs := 0 }
    settings.toJson.Writes settings.toText ∧ ofText settings.toText = .ok settings ∧
      refused.toJson.Writes refused.toJson.toIndented ∧
      ofText refused.toJson.toIndented = .error (.badSettings .noTabs) := by
  intro settings refused
  obtain ⟨readBack, compact, -⟩ := ofText_roundTrip settings
  obtain ⟨readRefused, -, indented⟩ := ofText_roundTrip refused
  have accepted : settings.check = .ok () := rfl
  have problem : refused.check = .error (.badSettings .noTabs) := rfl
  refine ⟨compact, ?_, indented, ?_⟩
  · rw [readBack _ compact, accepted]
    rfl
  · rw [readRefused _ indented, problem]
    rfl

end Settings

end Handbook
