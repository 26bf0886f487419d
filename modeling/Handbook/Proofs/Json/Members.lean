import Handbook.Settings.Json

namespace Handbook

/-- A numeral has a whole number only as that number is written. -/
theorem Numeral.toInt?_eq_some_iff {numeral : Numeral} {value : Int} :
    numeral.toInt? = some value ↔ numeral = ofInt value := by
  constructor
  · intro read
    obtain ⟨negative, whole, fraction, exponent⟩ := numeral
    unfold toInt? at read
    split at read
    · cases read
    · next plain =>
      simp only [not_or, ne_eq, Decidable.not_not] at plain
      obtain ⟨rfl, rfl⟩ := plain
      dsimp only at read
      split at read
      · next isNegative =>
        split at read
        · cases read
        · next nonzero =>
          cases read
          have positive : 0 < whole := by omega
          simp [ofInt, isNegative, positive]
      · next isNatural =>
        cases read
        simp [ofInt, isNatural]
  · rintro rfl
    exact toInt?_ofInt value

namespace Json

variable {content : Json} {members : List (JsonText × Json)} {name : String}

theorem toInt?_eq_some_iff {value : Int} :
    content.toInt? = some value ↔ content = .ofInt value := by
  cases content with
  | number numeral => simpa [toInt?, ofInt] using Numeral.toInt?_eq_some_iff
  | _ => exact ⟨nofun, nofun⟩

theorem toPx?_eq_some_iff {pixel : Px} :
    content.toPx? = some pixel ↔ content = .ofInt pixel.val := by
  simp only [toPx?, Option.bind_eq_some_iff, toInt?_eq_some_iff, Px.fit?_eq_some_iff]
  constructor
  · rintro ⟨value, isContent, isPixel⟩
    rw [isContent, isPixel]
  · intro isContent
    exact ⟨_, isContent, rfl⟩

@[simp]
theorem toPx?_ofInt (pixel : Px) : (ofInt pixel.val).toPx? = some pixel :=
  toPx?_eq_some_iff.mpr rfl

theorem toNatBelow?_eq_some_iff {limit number : Nat} :
    content.toNatBelow? limit = some number ↔ content = .ofInt number ∧ number < limit := by
  simp only [toNatBelow?, Option.bind_eq_some_iff, toInt?_eq_some_iff,
    Option.ite_none_right_eq_some, Option.some.injEq]
  constructor
  · rintro ⟨value, rfl, ⟨natural, below⟩, rfl⟩
    exact ⟨by rw [Int.toNat_of_nonneg natural], by omega⟩
  · rintro ⟨rfl, below⟩
    exact ⟨number, rfl, by omega, rfl⟩

theorem toNatBelow?_ofInt {limit number : Nat} (below : number < limit) :
    (ofInt number).toNatBelow? limit = some number :=
  toNatBelow?_eq_some_iff.mpr ⟨rfl, below⟩

@[simp]
theorem toPxPair?_array (first second : Px) :
    (array [ofInt first.val, ofInt second.val]).toPxPair? = some (first, second) := by
  simp [toPxPair?]

theorem toPxPair?_eq_some_iff {pair : Px × Px} :
    content.toPxPair? = some pair ↔ content = .array [.ofInt pair.1.val, .ofInt pair.2.val] := by
  constructor
  · intro read
    unfold toPxPair? at read
    split at read
    · obtain ⟨first, isFirst, read⟩ := Option.bind_eq_some_iff.mp read
      obtain ⟨second, isSecond, result⟩ := Option.bind_eq_some_iff.mp read
      cases result
      rw [toPx?_eq_some_iff.mp isFirst, toPx?_eq_some_iff.mp isSecond]
    · cases read
  · rintro rfl
    exact toPxPair?_array pair.1 pair.2

theorem toText?_eq_some_iff {text : String} :
    content.toText? = some text ↔ content = .ofText text := by
  cases content with
  | string inner => simp [toText?, ofText]
  | _ => exact ⟨nofun, nofun⟩

@[simp]
theorem toText?_ofText (text : String) : (ofText text).toText? = some text := rfl

theorem toBool?_eq_some_iff {value : Bool} :
    content.toBool? = some value ↔ content = .bool value := by
  cases content with
  | bool inner => simp [toBool?]
  | _ => exact ⟨nofun, nofun⟩

@[simp]
theorem toBool?_bool (value : Bool) : (bool value).toBool? = some value := rfl

/-- The name occurs once among the members, with this content. -/
structure NamedOnce (members : List (JsonText × Json)) (name : String) (content : Json) : Prop where
  once : (members.map Prod.fst).count (some name) = 1
  member : (some name, content) ∈ members

theorem mem_named : content ∈ named members name ↔ (some name, content) ∈ members := by
  simp [named, and_comm]

theorem length_named :
    (named members name).length = (members.map Prod.fst).count (some name) := by
  rw [named, List.length_map, ← List.countP_eq_length_filter, List.count, List.countP_map]
  rfl

theorem namedOnce_iff : NamedOnce members name content ↔ named members name = [content] := by
  constructor
  · rintro ⟨once, member⟩
    rw [← length_named, List.length_eq_one_iff] at once
    obtain ⟨only, isOnly⟩ := once
    rw [← mem_named, isOnly, List.mem_singleton] at member
    rw [isOnly, member]
  · intro isOnly
    refine ⟨?_, mem_named.mp ?_⟩
    · rw [← length_named, isOnly, List.length_singleton]
    · rw [isOnly]
      exact List.mem_singleton_self content

theorem named_eq_nil_iff : named members name = [] ↔ some name ∉ members.map Prod.fst := by
  rw [← List.length_eq_zero_iff, length_named, List.count_eq_zero]

theorem namesAreTexts_iff : namesAreTexts members = true ↔ none ∉ members.map Prod.fst := by
  simp only [namesAreTexts, List.all_eq_true, Option.isSome_iff_ne_none, List.mem_map, not_exists,
    not_and, ne_eq]

variable {α : Type} {standard value : α} {read : Json → Option α}

/-- A field that must be there is read from the one content under its name. -/
theorem field?_eq_some_iff : field? members name read = some value ↔
    ∃ content, NamedOnce members name content ∧ read content = some value := by
  simp only [namedOnce_iff]
  unfold field?
  split
  · next content isOnly => simp [isOnly]
  · next other =>
    constructor
    · nofun
    · rintro ⟨content, isOnly, -⟩
      exact absurd isOnly (other content)

/-- A field that may be left out has its standard value only then. -/
theorem fieldOr?_eq_some_iff : fieldOr? members name standard read = some value ↔
    some name ∉ members.map Prod.fst ∧ value = standard ∨
      ∃ content, NamedOnce members name content ∧ read content = some value := by
  simp only [namedOnce_iff, ← named_eq_nil_iff]
  unfold fieldOr?
  split
  · next absent => simp [absent, eq_comm]
  · next content isOnly => simp [isOnly]
  · next several other =>
    constructor
    · nofun
    · rintro (⟨absent, -⟩ | ⟨content, isOnly, -⟩)
      · exact absurd absent several
      · exact absurd isOnly (other content)

end Json

end Handbook
