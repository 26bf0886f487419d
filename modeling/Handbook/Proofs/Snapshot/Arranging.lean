import Handbook.Snapshot.Options

namespace Handbook.Snapshot

def ValueFlag.spelling : ValueFlag → String
  | .page => "--page"
  | .bookmark => "--bookmark"
  | .settings => "--config"

/-- Arguments that stay together: a plain one, a flag with its value, or a flag alone. -/
inductive Group where
  | plain (text : String)
  | valued (flag : ValueFlag) (value : String)
  | shaped
deriving DecidableEq

namespace Group

def arguments : Group → List String
  | .plain text => [text]
  | .valued flag value => [flag.spelling, value]
  | .shaped => ["--shaped"]

def plain? : Group → Option String
  | .plain text => some text
  | _ => none

def value? (flag : ValueFlag) : Group → Option String
  | .valued other value => if other = flag then some value else none
  | _ => none

private theorem filterMap_value?_plain (flag : ValueFlag) (texts : List String) :
    (texts.map plain).filterMap (value? flag) = [] := by
  simp [value?]

private theorem filterMap_value?_valued (flag other : ValueFlag) (values : List String) :
    (values.map (valued other)).filterMap (value? flag) = if other = flag then values else [] := by
  by_cases same : other = flag <;> simp [List.filterMap_map, Function.comp_def, value?, same]

private theorem filterMap_value?_shaped (flag : ValueFlag) (asked : Bool) :
    (if asked then [shaped] else []).filterMap (value? flag) = [] := by
  cases asked <;> rfl

/-- A plain argument of the group is no flag. -/
def Unmistakable (group : Group) : Prop := ∀ text ∈ group.plain?, Flag.ofText? text = none

end Group

def Sorted.add (sorted : Sorted) : Group → Sorted
  | .plain text => { sorted with plain := sorted.plain ++ [text] }
  | .valued flag value => sorted.setValue value flag
  | .shaped => { sorted with shaped := true }

namespace Sorted

variable {group : Group} {line : List Group}

private theorem addAll_arguments (sorted : Sorted) (unmistakable : group.Unmistakable)
    (rest : List String) :
    sorted.addAll (group.arguments ++ rest) = (sorted.add group).addAll rest := by
  cases group with
  | plain text =>
    have isPlain : Flag.ofText? text = none := unmistakable text rfl
    rw [Group.arguments, List.singleton_append, addAll, isPlain]
    rfl
  | valued flag value => cases flag <;> rfl
  | shaped => rfl

private theorem addAll_line (sorted : Sorted) (unmistakable : ∀ group ∈ line, group.Unmistakable) :
    sorted.addAll (line.flatMap Group.arguments) = .ok (line.foldl add sorted) := by
  induction line generalizing sorted with
  | nil => rfl
  | cons group rest ih =>
    rw [List.flatMap_cons, addAll_arguments sorted (unmistakable group (List.mem_cons_self ..)),
      List.foldl_cons, ih _ fun later member => unmistakable later (List.mem_cons_of_mem _ member)]

private theorem getLast?_cons_or (value : String) (later : List String) (earlier : Option String) :
    (value :: later).getLast?.or earlier = later.getLast?.or (some value) := by
  rw [List.getLast?_cons]
  cases later.getLast? <;> rfl

/-- What was noted of a line: plain arguments and bookmarks in order, the last page and the last
settings. -/
theorem foldl_add (sorted : Sorted) (line : List Group) :
    line.foldl add sorted = {
      plain := sorted.plain ++ line.filterMap Group.plain?
      page := (line.filterMap (Group.value? .page)).getLast?.or sorted.page
      bookmarks := sorted.bookmarks ++ line.filterMap (Group.value? .bookmark)
      settings := (line.filterMap (Group.value? .settings)).getLast?.or sorted.settings
      shaped := sorted.shaped || decide (Group.shaped ∈ line) } := by
  induction line generalizing sorted with
  | nil => simp
  | cons group rest ih =>
    rw [List.foldl_cons, ih]
    cases group with
    | plain text => simp [add, List.filterMap_cons, Group.plain?, Group.value?]
    | valued flag value =>
      cases flag <;>
        simp [add, setValue, List.filterMap_cons, Group.plain?, Group.value?, getLast?_cons_or]
    | shaped => simp [add, List.filterMap_cons, Group.plain?, Group.value?]

end Sorted

/-- The arguments that are flags, wherever no value is expected. -/
def Flag.words : List String :=
  ["--page", "--bookmark", "--config", "--shaped", "-h", "--help"]

theorem Flag.ofText?_eq_none_iff {text : String} :
    Flag.ofText? text = none ↔ text ∉ Flag.words := by
  simp [Flag.ofText?, Flag.spellings, Flag.words, List.lookup_eq_none_iff]

/-- A positive pixel number and a text for it: its digits, which a plus sign and zeros may precede.
-/
structure Dimension where
  pixels : Px
  text : String
  positive : 0 < pixels.val
  written : ∃ sign zeros, (sign = [] ∨ sign = ['+']) ∧
    text.toList = sign ++ (List.replicate zeros '0' ++ Nat.toDigits 10 pixels.val.toNat)

namespace Dimension

private theorem dimension?_text (dimension : Dimension) :
    dimension? dimension.text = some dimension.pixels := by
  obtain ⟨pixels, text, positive, sign, zeros, optional, written⟩ := dimension
  have value :
      Nat.ofDigitChars 10 (List.replicate zeros '0' ++ Nat.toDigits 10 pixels.val.toNat) 0 =
        pixels.val.toNat := by
    rw [Nat.ofDigitChars_append, Nat.ofDigitChars_replicate_zero, Nat.mul_zero,
      Nat.ofDigitChars_ten_toDigits]
  have allDigits : ∀ digit ∈ List.replicate zeros '0' ++ Nat.toDigits 10 pixels.val.toNat,
      digit.isDigit := by
    intro digit member
    rcases List.mem_append.mp member with zero | later
    · rw [List.eq_of_mem_replicate zero]
      rfl
    · exact Nat.isDigit_of_mem_toDigits (by decide) (by decide) later
  rw [dimension?_of_digits written optional
    (List.append_ne_nil_of_right_ne_nil _ Nat.toDigits_ne_nil) allDigits (by omega), value,
    Int.toNat_of_nonneg (by omega), Px.fit?_val]

private theorem dimensionOr_text (standard : Px) (dimension : Option Dimension) :
    dimensionOr standard (dimension.map text) = .ok ((dimension.map pixels).getD standard) := by
  cases dimension with
  | none => rfl
  | some dimension =>
    rw [Option.map_some, dimensionOr, dimension.dimension?_text]
    rfl

private theorem not_mem_words (dimension : Dimension) : dimension.text ∉ Flag.words := by
  have refused : ∀ word ∈ Flag.words, dimension? word = none := by decide
  intro member
  have read := dimension.dimension?_text
  rw [refused _ member] at read
  cases read

end Dimension

/-- What a command line is to ask for. Its plain arguments are the directory, the width and the
height, and without a width there is no height. -/
structure Wanted where
  directory : String
  width : Option Dimension
  height : Option Dimension
  page : Option String
  bookmarks : List String
  settings : Option String
  shaped : Bool
  unmistakable : directory ∉ Flag.words
  height_behind_width : height.isSome → width.isSome

namespace Wanted

def plain (wanted : Wanted) : List String :=
  wanted.directory :: ((wanted.width.map Dimension.text).toList ++
    (wanted.height.map Dimension.text).toList)

def values (wanted : Wanted) : ValueFlag → List String
  | .page => wanted.page.toList
  | .bookmark => wanted.bookmarks
  | .settings => wanted.settings.toList

/-- The groups of arguments that ask for it, plain ones first. -/
def groups (wanted : Wanted) : List Group :=
  wanted.plain.map .plain ++
    (wanted.values .page).map (.valued .page) ++
    (wanted.values .bookmark).map (.valued .bookmark) ++
    (wanted.values .settings).map (.valued .settings) ++
    if wanted.shaped then [.shaped] else []

/-- The options that are asked for; dimensions that are not given are the standard ones. -/
def options (wanted : Wanted) : Options where
  directory := wanted.directory
  width := (wanted.width.map Dimension.pixels).getD 1280
  height := (wanted.height.map Dimension.pixels).getD 800
  page := wanted.page
  bookmarks := wanted.bookmarks
  settings := wanted.settings
  shaped := wanted.shaped

/-- A line has these groups in any arrangement in which the plain arguments keep their order and the
bookmarks keep theirs. -/
structure ArrangedAs (wanted : Wanted) (line : List Group) : Prop where
  groups : line.Perm wanted.groups
  plain : line.filterMap Group.plain? = wanted.plain
  bookmarks : line.filterMap (Group.value? .bookmark) = wanted.bookmarks

variable {wanted : Wanted} {line : List Group}

private theorem not_mem_words_of_mem_plain (wanted : Wanted) {text : String}
    (member : text ∈ wanted.plain) : text ∉ Flag.words := by
  rcases List.mem_cons.mp member with rfl | size
  · exact wanted.unmistakable
  · simp only [List.mem_append, Option.mem_toList, Option.map_eq_some_iff] at size
    rcases size with ⟨dimension, -, rfl⟩ | ⟨dimension, -, rfl⟩
    · exact dimension.not_mem_words
    · exact dimension.not_mem_words

theorem ArrangedAs.unmistakable (arranged : wanted.ArrangedAs line) :
    ∀ group ∈ line, group.Unmistakable := by
  intro group member text isText
  have inPlain : text ∈ wanted.plain :=
    arranged.plain ▸ List.mem_filterMap.mpr ⟨group, member, isText⟩
  exact Flag.ofText?_eq_none_iff.mpr (wanted.not_mem_words_of_mem_plain inPlain)

private theorem filterMap_value?_groups (wanted : Wanted) (flag : ValueFlag) :
    wanted.groups.filterMap (Group.value? flag) = wanted.values flag := by
  unfold groups
  simp only [List.filterMap_append, Group.filterMap_value?_plain, Group.filterMap_value?_valued,
    Group.filterMap_value?_shaped]
  cases flag <;> simp

theorem shaped_mem_groups_iff (wanted : Wanted) : Group.shaped ∈ wanted.groups ↔ wanted.shaped := by
  simp [groups]

/-- A list with the elements of an option is the list of the option. -/
theorem eq_toList_of_perm {values : List String} {option : Option String}
    (same : values.Perm option.toList) : values = option.toList := by
  cases option with
  | none => exact List.perm_nil.mp same
  | some value => exact List.perm_singleton.mp same

private theorem getLast?_toList (option : Option String) : option.toList.getLast? = option := by
  cases option <;> rfl

/-- Of a flag that is given at most once there is no order to keep. -/
theorem ArrangedAs.values (arranged : wanted.ArrangedAs line) (flag : ValueFlag) :
    line.filterMap (Group.value? flag) = wanted.values flag := by
  have same : (line.filterMap (Group.value? flag)).Perm (wanted.values flag) :=
    wanted.filterMap_value?_groups flag ▸ arranged.groups.filterMap _
  cases flag with
  | page => exact eq_toList_of_perm same
  | bookmark => exact arranged.bookmarks
  | settings => exact eq_toList_of_perm same

/-- Where there is no second element without a first one, each stands at its place. -/
theorem getElem?_toList_append {first second : Option String}
    (behind : second.isSome → first.isSome) :
    (first.toList ++ second.toList)[0]? = first ∧ (first.toList ++ second.toList)[1]? = second ∧
      (first.toList ++ second.toList)[2]? = none := by
  cases first with
  | none =>
    cases second with
    | none => exact ⟨rfl, rfl, rfl⟩
    | some _ => cases behind rfl
  | some _ => cases second <;> exact ⟨rfl, rfl, rfl⟩

private theorem ofSorted_eq (wanted : Wanted) :
    Options.ofSorted {
      plain := wanted.plain
      page := wanted.page
      bookmarks := wanted.bookmarks
      settings := wanted.settings
      shaped := wanted.shaped } = .ok wanted.options := by
  have behind : (wanted.height.map Dimension.text).isSome →
      (wanted.width.map Dimension.text).isSome := by
    simpa using wanted.height_behind_width
  obtain ⟨width, height, none⟩ := getElem?_toList_append behind
  rw [Options.ofSorted]
  simp only [plain, width, height, none, Dimension.dimensionOr_text]
  rfl

/-- However the arguments are arranged, they are read as the options that they ask for. -/
theorem read_in_any_arrangement (arranged : wanted.ArrangedAs line) :
    Options.ofArguments (line.flatMap Group.arguments) = .ok wanted.options := by
  have sorted : Sorted.addAll {} (line.flatMap Group.arguments) = .ok {
      plain := wanted.plain
      page := wanted.page
      bookmarks := wanted.bookmarks
      settings := wanted.settings
      shaped := wanted.shaped } := by
    rw [Sorted.addAll_line _ arranged.unmistakable, Sorted.foldl_add, arranged.plain,
      arranged.values, arranged.values, arranged.values]
    simp [Wanted.values, getLast?_toList, arranged.groups.mem_iff, wanted.shaped_mem_groups_iff]
  rw [Options.ofArguments, sorted]
  exact wanted.ofSorted_eq

/-- Values that are flag words, a width with a sign and a zero, and flags before, between and behind
the plain arguments. -/
theorem read_in_any_arrangement_flagValues :
    ∃ wanted line, ArrangedAs wanted line ∧
      line.flatMap Group.arguments = ["--bookmark", "--page", "--shaped", "pages", "--config", "-h",
        "+0800", "--page", "--help", "600", "--bookmark", "--shaped"] ∧
      Options.ofArguments (line.flatMap Group.arguments) = .ok wanted.options ∧
      wanted.options = {
        directory := "pages", width := 800, height := 600, page := some "--help"
        bookmarks := ["--page", "--shaped"], settings := some "-h", shaped := true } := by
  let width : Dimension := ⟨800, "+0800", by decide, ['+'], 1, .inr rfl, by decide⟩
  let height : Dimension := ⟨600, "600", by decide, [], 0, .inl rfl, by decide⟩
  let wanted : Wanted := {
    directory := "pages", width := width, height := height, page := "--help"
    bookmarks := ["--page", "--shaped"], settings := "-h", shaped := true
    unmistakable := by decide, height_behind_width := fun _ => rfl }
  have arranged : wanted.ArrangedAs [.valued .bookmark "--page", .shaped, .plain "pages",
      .valued .settings "-h", .plain "+0800", .valued .page "--help", .plain "600",
      .valued .bookmark "--shaped"] := ⟨by decide, by decide, by decide⟩
  exact ⟨wanted, _, arranged, by decide, read_in_any_arrangement arranged, rfl⟩

end Wanted

end Handbook.Snapshot
