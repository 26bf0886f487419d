import Mathlib.Data.List.Chain
import Mathlib.Order.Bounds.Defs
import Handbook.Proofs.Binary32.Order
import Handbook.Proofs.Text.Headers
import Handbook.Proofs.Text.Wrapping

namespace Handbook

section Cuts
variable {Item : Type} {fits : List Item → Prop} {items : List Item}
  {groups cut : List (List Item)}

/-- The groups are the items in their order, none of them is empty and all of them fit. -/
structure IsCut (fits : List Item → Prop) (items : List Item) (groups : List (List Item)) :
    Prop where
  whole : groups.flatten = items
  nonempty : ∀ group ∈ groups, group ≠ []
  fit : ∀ group ∈ groups, fits group

/-- No group could have taken the item that starts the next one. -/
def Filled (fits : List Item → Prop) (groups : List (List Item)) : Prop :=
  groups.IsChain fun group next => ∀ item ∈ next.head?, ¬ fits (group ++ [item])

theorem IsCut.cons {group : List Item} (occupied : group ≠ []) (fit : fits group)
    (isCut : IsCut fits items groups) : IsCut fits (group ++ items) (group :: groups) where
  whole := by rw [List.flatten_cons, isCut.whole]
  nonempty := List.forall_mem_cons.mpr ⟨occupied, isCut.nonempty⟩
  fit := List.forall_mem_cons.mpr ⟨fit, isCut.fit⟩

private theorem not_fits_of_filled {group : List Item} {later : List (List Item)} {item : Item}
    {others : List Item} (nonempty : ∀ next ∈ later, next ≠ [])
    (filled : Filled fits (group :: later)) (follows : later.flatten = item :: others) :
    ¬ fits (group ++ [item]) := by
  cases later with
  | nil => cases follows
  | cons next rest =>
    obtain ⟨full, -⟩ := List.isChain_cons_cons.mp filled
    obtain ⟨some, -⟩ := List.forall_mem_cons.mp nonempty
    obtain ⟨first, more, isNext⟩ := List.exists_cons_of_ne_nil some
    subst isNext
    cases follows
    exact full _ rfl

/-- Filled groups of the last items of a cut are not more than the groups of the cut. -/
theorem length_le_of_suffix (nonempty : ∀ group ∈ groups, group ≠ []) (filled : Filled fits groups)
    (inherited : ∀ group ∈ cut, ∀ part, part <:+: group → part ≠ [] → fits part)
    (behind : groups.flatten <:+ cut.flatten) : groups.length ≤ cut.length := by
  induction cut generalizing groups with
  | nil =>
    have none : groups.flatten = [] := List.suffix_nil.mp behind
    cases groups with
    | nil => exact Nat.le_refl _
    | cons group later =>
      obtain ⟨some, -⟩ := List.forall_mem_cons.mp nonempty
      exact absurd (List.append_eq_nil_iff.mp none).1 some
  | cons whole rest ih =>
    obtain ⟨wholeInherited, restInherited⟩ := List.forall_mem_cons.mp inherited
    cases groups with
    | nil => exact Nat.zero_le _
    | cons group later =>
      obtain ⟨some, laterSome⟩ := List.forall_mem_cons.mp nonempty
      refine Nat.succ_le_succ (ih laterSome (List.IsChain.tail filled) restInherited ?_)
      rw [List.flatten_cons, List.flatten_cons] at behind
      have laterBehind : later.flatten <:+ whole ++ rest.flatten :=
        (List.suffix_append group later.flatten).trans behind
      rcases List.suffix_or_suffix_of_suffix laterBehind
        (List.suffix_append whole rest.flatten) with inside | ⟨taken, reaches⟩
      · exact inside
      · cases taken with
        | nil => exact reaches ▸ List.suffix_refl _
        | cons item others =>
          -- The other cut would have put the group and the item behind it together.
          obtain ⟨before, isWhole⟩ := behind
          have extended : before ++ (group ++ [item]) ++ others ++ rest.flatten =
              whole ++ rest.flatten := by
            rw [← isWhole, ← reaches]
            simp
          have together := List.append_cancel_right extended
          have fitsTogether := wholeInherited (group ++ [item]) ⟨before, others, together⟩ (by simp)
          exact absurd fitsTogether
            (not_fits_of_filled laterSome filled (reaches.symm.trans (List.cons_append ..)))

theorem IsCut.length_le (isCut : IsCut fits items groups) (filled : Filled fits groups)
    (inherited : ∀ group part, (∀ item ∈ group, item ∈ items) → part <:+: group → part ≠ [] →
      fits group → fits part) (other : IsCut fits items cut) : groups.length ≤ cut.length := by
  refine length_le_of_suffix isCut.nonempty filled ?_ ?_
  · intro group member part inside some
    have among : ∀ item ∈ group, item ∈ items := fun item inGroup =>
      other.whole ▸ List.mem_flatten_of_mem member inGroup
    exact inherited group part among inside some (other.fit group member)
  · have same : groups.flatten = cut.flatten := isCut.whole.trans other.whole.symm
    exact same ▸ List.suffix_refl _

end Cuts

/-- Neither a space nor a word of the paragraphs is narrower than nothing. -/
structure Font.Natural (font : Font) (paragraphs : List Paragraph) : Prop where
  space : ∀ width ∈ font.width? " ", 0 ≤ width.val
  word : ∀ paragraph ∈ paragraphs, ∀ word ∈ paragraph.words, ∀ width ∈ font.width? word,
    0 ≤ width.val

namespace Flow

variable {column wide space gap y last height : Px} {scale : Binary32} {level : Option Nat}
  {line word : Measured} {words group part filled : List Measured} {groups : List (List Measured)}
  {lines : List FlowLine} {block : Block} {blocks : List Block} {flow : Flow}

/-- The words of a line with a space between neighbours. -/
def textOf (group : List Measured) : String := " ".intercalate (group.map Measured.text)

/-- The widths of the words of a line and of the spaces between them, before scaling. -/
def lengthOf (space : Px) : List Measured → Int
  | [] => 0
  | [word] => word.width.val
  | word :: next :: rest => word.width.val + space.val + lengthOf space (next :: rest)

/-- A line can hold the words: there is only one, or their scaled length is not above the column's
width. -/
def Fits (column space : Px) (scale : Binary32) (group : List Measured) : Prop :=
  group.length = 1 ∨
    ∃ length : Px, length.val = lengthOf space group ∧ (scaled length scale).val ≤ column.val

/-- No word is narrower than nothing. -/
def Natural (words : List Measured) : Prop := ∀ word ∈ words, 0 ≤ word.width.val

theorem lengthOf_append {first second : List Measured} (occupied : first ≠ [])
    (others : second ≠ []) :
    lengthOf space (first ++ second) = lengthOf space first + space.val + lengthOf space second := by
  induction first with
  | nil => exact absurd rfl occupied
  | cons word rest ih =>
    cases rest with
    | nil =>
      obtain ⟨next, more, rfl⟩ := List.exists_cons_of_ne_nil others
      rfl
    | cons next more =>
      have later := ih (List.cons_ne_nil _ _)
      simp only [List.cons_append] at later ⊢
      rw [lengthOf, lengthOf, later]
      omega

theorem lengthOf_nonneg (spaceNatural : 0 ≤ space.val) (natural : Natural words) :
    0 ≤ lengthOf space words := by
  induction words with
  | nil => exact Int.le_refl _
  | cons word rest ih =>
    obtain ⟨wordNatural, restNatural⟩ := List.forall_mem_cons.mp natural
    cases rest with
    | nil => exact wordNatural
    | cons next more =>
      have later := ih restNatural
      rw [lengthOf]
      omega

private theorem lengthOf_le_of_infix (spaceNatural : 0 ≤ space.val) (natural : Natural group)
    (inside : part <:+: group) (some : part ≠ []) : lengthOf space part ≤ lengthOf space group := by
  obtain ⟨before, after, rfl⟩ := inside
  have beforeNatural : Natural before := fun word member => natural word (by simp [member])
  have afterNatural : Natural after := fun word member => natural word (by simp [member])
  have beforeLength := lengthOf_nonneg spaceNatural beforeNatural
  have afterLength := lengthOf_nonneg spaceNatural afterNatural
  have start : lengthOf space part ≤ lengthOf space (before ++ part) := by
    cases before with
    | nil => exact Int.le_refl _
    | cons first rest =>
      rw [lengthOf_append (List.cons_ne_nil _ _) some]
      omega
  cases after with
  | nil => rwa [List.append_nil]
  | cons first rest =>
    rw [lengthOf_append (by simp [some]) (List.cons_ne_nil _ _)]
    omega

/-- Words that stand on a line together can stand on one without the others. -/
theorem Fits.of_infix (spaceNatural : 0 ≤ space.val) (natural : Natural group)
    (inside : part <:+: group) (some : part ≠ [])
    (fits : Fits column space (scaleOf level) group) : Fits column space (scaleOf level) part := by
  have shorter := lengthOf_le_of_infix spaceNatural natural inside some
  rcases fits with alone | ⟨length, isLength, notAbove⟩
  · have bound := inside.length_le
    have few := List.length_pos_iff.mpr some
    exact .inl (by omega)
  · have partNatural : Natural part := fun word member =>
      natural word (inside.subset member)
    have least := lengthOf_nonneg spaceNatural partNatural
    have most := length.le_upper
    refine .inr ⟨⟨lengthOf space part, by omega, by omega⟩, rfl, Int.le_trans ?_ notAbove⟩
    exact scaled_mono level least (isLength ▸ shorter)

theorem Fits.mono (wider : column.val ≤ wide.val) (fits : Fits column space scale group) :
    Fits wide space scale group :=
  fits.imp_right fun ⟨length, isLength, notAbove⟩ =>
    ⟨length, isLength, Int.le_trans notAbove wider⟩

/-- Another word fits exactly when the scaled length with it is not above the column's width. -/
theorem fits_append_word_iff {joined : Px} (occupied : group ≠ [])
    (isLength : joined.val = lengthOf space (group ++ [word])) :
    Fits column space scale (group ++ [word]) ↔ (scaled joined scale).val ≤ column.val := by
  constructor
  · rintro (alone | ⟨length, isOther, notAbove⟩)
    · have few := List.length_pos_iff.mpr occupied
      rw [List.length_append, List.length_singleton] at alone
      omega
    · rwa [Px.ext (isOther.trans isLength.symm)] at notAbove
  · exact fun notAbove => .inr ⟨joined, isLength, notAbove⟩

/-- A line being filled holds the words of a group, which fit. -/
structure Measured.Holds (column space : Px) (scale : Binary32) (line : Measured)
    (group : List Measured) : Prop where
  text : line.text = textOf group
  width : line.width.val = lengthOf space group
  fits : Fits column space scale group

theorem Measured.holds_word (word : Measured) : word.Holds column space scale [word] :=
  ⟨by simp [textOf], rfl, .inl rfl⟩

private theorem textOf_append_word (occupied : group ≠ []) :
    textOf (group ++ [word]) = textOf group ++ " " ++ word.text := by
  have first : group.map Measured.text ≠ [] := by simpa using occupied
  have second : [word].map Measured.text ≠ [] := List.cons_ne_nil _ _
  rw [textOf, List.map_append, String.intercalate_append_of_ne_nil first second]
  simp [textOf]

private theorem textOf_ne_empty (occupied : group ≠ []) (worded : ∀ word ∈ group, word.text ≠ "") :
    textOf group ≠ "" := by
  obtain ⟨first, rest, rfl⟩ := List.exists_cons_of_ne_nil occupied
  have shows : first.text ≠ "" := worded first (List.mem_cons_self ..)
  unfold textOf
  cases rest with
  | nil => simpa using shows
  | cons next more => simp [String.intercalate_cons_cons]

/-- A line that holds the first words of a group, and the words behind it, fill lines that hold a
cut of all the words, and each line but the last is full. -/
theorem isCut_of_fill? (occupied : group ≠ []) (worded : ∀ word ∈ group ++ words, word.text ≠ "")
    (holds : line.Holds column space scale group)
    (fills : fill? column space scale line words = some filled) :
    ∃ first later, List.Forall₂ (Measured.Holds column space scale) filled (first :: later) ∧
      group <+: first ∧ IsCut (Fits column space scale) (group ++ words) (first :: later) ∧
      Filled (Fits column space scale) (first :: later) := by
  induction words generalizing line group filled with
  | nil =>
    cases fills
    have isCut := IsCut.cons occupied holds.fits ⟨rfl, List.forall_mem_nil _, List.forall_mem_nil _⟩
    exact ⟨group, [], .cons holds .nil, List.prefix_refl _, isCut, List.isChain_singleton _⟩
  | cons word rest ih =>
    have groupWorded : ∀ word ∈ group, word.text ≠ "" := fun word member =>
      worded word (List.mem_append_left _ member)
    have shows : line.text ≠ "" := holds.text ▸ textOf_ne_empty occupied groupWorded
    rw [fill?, if_neg shows] at fills
    obtain ⟨spaced, isSpaced, fills⟩ := Option.bind_eq_some_iff.mp fills
    obtain ⟨joined, isJoined, fills⟩ := Option.bind_eq_some_iff.mp fills
    have isLength : joined.val = lengthOf space (group ++ [word]) := by
      rw [lengthOf_append occupied (List.cons_ne_nil _ _), ← holds.width,
        Px.fit?_eq_some_iff.mp isJoined, Px.fit?_eq_some_iff.mp isSpaced]
      rfl
    have joins : Fits column space scale (group ++ [word]) ↔ (scaled joined scale).val ≤ column.val :=
      fits_append_word_iff occupied isLength
    split at fills
    · next full =>
      -- The word does not fit any more, and starts the next line.
      obtain ⟨filledLater, fillsLater, result⟩ := Option.bind_eq_some_iff.mp fills
      cases result
      have restWorded : ∀ other ∈ [word] ++ rest, other.text ≠ "" := fun other member =>
        worded other (List.mem_append_right _ member)
      have start : word.Holds column space scale [word] := Measured.holds_word word
      obtain ⟨next, later, laterHold, starts, isCut, isFilled⟩ :=
        ih (List.cons_ne_nil word []) restWorded start fillsLater
      refine ⟨group, next :: later, .cons holds laterHold, List.prefix_refl _,
        isCut.cons occupied holds.fits, List.isChain_cons_cons.mpr ⟨?_, isFilled⟩⟩
      obtain ⟨after, rfl⟩ := starts
      rintro other ⟨⟩ fits
      exact absurd (joins.mp fits) (Int.not_le.mpr full)
    · next notFull =>
      have joinedHolds : (⟨line.text ++ " " ++ word.text, joined⟩ : Measured).Holds column space
          scale (group ++ [word]) := {
        text := by rw [textOf_append_word occupied, holds.text]
        width := isLength
        fits := joins.mpr (Int.not_lt.mp notFull) }
      rw [List.append_cons] at worded ⊢
      obtain ⟨first, later, hold, starts, isCut, isFilled⟩ := ih (by simp) worded joinedHolds fills
      exact ⟨first, later, hold, (List.prefix_append group [word]).trans starts, isCut, isFilled⟩

/-- A line of a flow holds the words of a group: its width is their scaled length, and it is above
the column's width only for a single word. -/
structure LineHolds (column space : Px) (line : FlowLine) (group : List Measured) : Prop where
  text : line.text = textOf group
  width : ∃ length : Px, length.val = lengthOf space group ∧ line.width = scaled length line.scale
  fits : group.length = 1 ∨ line.width.val ≤ column.val

/-- Stacking keeps the text of filled lines and scales their width. -/
theorem lineHolds_of_stack?
    (hold : List.Forall₂ (Measured.Holds column space scale) filled groups)
    (stacked : stack? height scale level y filled = some (lines, last)) :
    List.Forall₂ (LineHolds column space) lines groups := by
  have fit := stacksTo_of_stack? stacked
  clear stacked
  induction hold generalizing lines with
  | nil =>
    cases fit
    exact .nil
  | @cons line group _ _ holds _ ih =>
    obtain _ | ⟨stacksTo, later⟩ := fit
    obtain ⟨text, width, -, isScale, -⟩ := stacksTo
    refine .cons ⟨text.trans holds.text, ⟨line.width, holds.width, width⟩, ?_⟩ (ih later)
    refine holds.fits.imp_right fun ⟨length, isLength, notAbove⟩ => ?_
    rwa [Px.ext (isLength.trans holds.width.symm), ← isScale, ← width] at notAbove

private theorem last_of_block? (flowed : block? column space y block = some (lines, last)) :
    last.val = y.val + lines.length * (scaled block.lineHeight (scaleOf block.level)).val := by
  have same : ∀ line ∈ lines, line.height = scaled block.lineHeight (scaleOf block.level) := by
    intro line member
    obtain ⟨-, isScale, isHeight⟩ := look_of_block? flowed line member
    rw [isHeight, isScale]
  rw [(stack_of_block? flowed).2, rowsOf_const same]

/-- The lines of a paragraph with words hold a cut of its words, and every line but the last is
full. -/
theorem isCut_of_block? (occupied : block.words ≠ []) (worded : block.paragraph.Worded)
    (flowed : block? column space y block = some (lines, last)) :
    ∃ groups, List.Forall₂ (LineHolds column space) lines groups ∧
      IsCut (Fits column space (scaleOf block.level)) block.words groups ∧
      Filled (Fits column space (scaleOf block.level)) groups := by
  unfold Paragraph.Worded at worded
  rw [words_paragraph, List.forall_mem_map] at worded
  obtain ⟨word, rest, isWords⟩ := List.exists_cons_of_ne_nil occupied
  rw [isWords] at worded ⊢
  obtain ⟨wordShows, restWorded⟩ := List.forall_mem_cons.mp worded
  obtain ⟨filled, fills, stacked⟩ := exists_filled_of_words isWords wordShows restWorded flowed
  obtain ⟨first, later, hold, -, isCut, isFilled⟩ :=
    isCut_of_fill? (List.cons_ne_nil _ _) worded (Measured.holds_word word) fills
  exact ⟨first :: later, lineHolds_of_stack? hold stacked, isCut, isFilled⟩

/-- A paragraph without words has no line, but a header has an empty one. -/
theorem lines_of_noWords (noWords : block.words = [])
    (flowed : block? column space y block = some (lines, last)) :
    lines.map (fun line => (line.text, line.width)) =
      if block.level.isSome then [("", 0)] else [] := by
  obtain ⟨filled, fills, stacked⟩ := Option.bind_eq_some_iff.mp flowed
  rw [noWords] at fills
  cases fills
  cases isLevel : block.level with
  | none =>
    simp only [isLevel] at stacked
    cases stacked
    rfl
  | some level =>
    simp only [isLevel] at stacked
    obtain ⟨next, -, stacked⟩ := Option.bind_eq_some_iff.mp stacked
    cases stacked
    simp [scaled_zero]

/-- A measured paragraph whose words have text and are not narrower than nothing. -/
structure Block.Sound (block : Block) : Prop where
  worded : block.paragraph.Worded
  natural : Natural block.words

/-- The lines hold a cut of the words of a paragraph, and no cut has fewer groups. -/
structure Block.Broken (column space : Px) (block : Block) (lines : List FlowLine) : Prop where
  holds : ∃ groups, IsCut (Fits column space (scaleOf block.level)) block.words groups ∧
    List.Forall₂ (LineHolds column space) lines groups
  least : IsLeast {count | ∃ cut, IsCut (Fits column space (scaleOf block.level)) block.words cut ∧
    cut.length = count} lines.length

/-- The lines are those of a paragraph in a column. Without words it has no line, but a header has an
empty one. -/
structure Block.Laid (column space : Px) (block : Block) (lines : List FlowLine) : Prop where
  broken : block.words ≠ [] → block.Broken column space lines
  noWords : block.words = [] → lines.map (fun line => (line.text, line.width)) =
    if block.level.isSome then [("", 0)] else []

/-- What fills the lines of a column takes no more groups than any cut that fits a narrower one. -/
theorem length_le_of_filled (spaceNatural : 0 ≤ space.val) (natural : Natural words)
    (isCut : IsCut (Fits wide space (scaleOf level)) words groups)
    (filled : Filled (Fits wide space (scaleOf level)) groups) (wider : column.val ≤ wide.val)
    {cut : List (List Measured)} (other : IsCut (Fits column space (scaleOf level)) words cut) :
    groups.length ≤ cut.length := by
  refine isCut.length_le filled ?_ ⟨other.whole, other.nonempty, fun group member =>
    (other.fit group member).mono wider⟩
  intro group part among inside occupied fits
  exact fits.of_infix spaceNatural (fun word member => natural word (among word member)) inside
    occupied

private theorem laid_of_block? (spaceNatural : 0 ≤ space.val) (sound : block.Sound)
    (flowed : block? column space y block = some (lines, last)) :
    block.Laid column space lines := by
  refine ⟨fun occupied => ?_, fun noWords => lines_of_noWords noWords flowed⟩
  obtain ⟨groups, hold, isCut, filled⟩ := isCut_of_block? occupied sound.worded flowed
  refine ⟨⟨groups, isCut, hold⟩, ⟨groups, isCut, hold.length_eq.symm⟩, ?_⟩
  rintro count ⟨cut, other, rfl⟩
  rw [hold.length_eq]
  exact length_le_of_filled spaceNatural sound.natural isCut filled (Int.le_refl _) other

private theorem laid_of_ofBlocks? (spaceNatural : 0 ≤ space.val)
    (sound : ∀ block ∈ blocks, block.Sound)
    (flowed : ofBlocks? column space gap blocks = some flow) :
    ∃ groups, flow.lines = groups.flatten ∧
      List.Forall₂ (Block.Laid column space) blocks groups := by
  obtain ⟨groups, isFlat, fit⟩ := groups_of_ofBlocks? flowed
  refine ⟨groups, isFlat, ((List.forall₂_and_left _ _).mpr ⟨sound, fit⟩).imp ?_⟩
  rintro block group ⟨blockSound, y, last, isGroup⟩
  exact laid_of_block? spaceNatural blockSound isGroup

section Wider
variable {start bottom : Px} {fewer : List FlowLine} {wideFlow : Flow}
  (spaceNatural : 0 ≤ space.val) (wider : column.val ≤ wide.val)
include spaceNatural wider

private theorem length_le_of_wider (sound : block.Sound)
    (flowed : block? column space y block = some (lines, last))
    (flowedWide : block? wide space start block = some (fewer, bottom)) :
    fewer.length ≤ lines.length := by
  by_cases occupied : block.words = []
  · have same := (lines_of_noWords occupied flowedWide).trans (lines_of_noWords occupied flowed).symm
    have lengths := congrArg List.length same
    rw [List.length_map, List.length_map] at lengths
    exact Nat.le_of_eq lengths
  · obtain ⟨groups, hold, isCut, -⟩ := isCut_of_block? occupied sound.worded flowed
    obtain ⟨wideGroups, wideHold, wideCut, filled⟩ :=
      isCut_of_block? occupied sound.worded flowedWide
    rw [hold.length_eq, wideHold.length_eq]
    exact length_le_of_filled spaceNatural sound.natural wideCut filled wider isCut

private theorem block_le_of_wider (sound : block.Sound) (upright : 0 ≤ block.lineHeight.val)
    (above : start.val ≤ y.val) (flowed : block? column space y block = some (lines, last))
    (flowedWide : block? wide space start block = some (fewer, bottom)) :
    fewer.length ≤ lines.length ∧ bottom.val ≤ last.val := by
  have notMore := length_le_of_wider spaceNatural wider sound flowed flowedWide
  have rows := Int.mul_le_mul_of_nonneg_right (Int.ofNat_le.mpr notMore)
    (scaled_nonneg block.level upright)
  refine ⟨notMore, ?_⟩
  rw [last_of_block? flowed, last_of_block? flowedWide]
  omega

private theorem further_le_of_wider
    (sound : ∀ block ∈ blocks, block.Sound ∧ 0 ≤ block.lineHeight.val)
    (above : start.val ≤ y.val) (flowed : further? column space gap y blocks = some (lines, last))
    (flowedWide : further? wide space gap start blocks = some (fewer, bottom)) :
    fewer.length ≤ lines.length ∧ bottom.val ≤ last.val := by
  induction blocks generalizing y start lines fewer with
  | nil =>
    cases flowed
    cases flowedWide
    exact ⟨Nat.le_refl _, above⟩
  | cons block rest ih =>
    obtain ⟨⟨blockSound, upright⟩, restSound⟩ := List.forall_mem_cons.mp sound
    obtain ⟨first, isFirst, flowed⟩ := Option.bind_eq_some_iff.mp flowed
    obtain ⟨⟨group, next⟩, isGroup, flowed⟩ := Option.bind_eq_some_iff.mp flowed
    obtain ⟨⟨later, final⟩, isLater, result⟩ := Option.bind_eq_some_iff.mp flowed
    cases result
    obtain ⟨wideFirst, isWideFirst, flowedWide⟩ := Option.bind_eq_some_iff.mp flowedWide
    obtain ⟨⟨wideGroup, wideNext⟩, isWideGroup, flowedWide⟩ :=
      Option.bind_eq_some_iff.mp flowedWide
    obtain ⟨⟨wideLater, wideFinal⟩, isWideLater, result⟩ := Option.bind_eq_some_iff.mp flowedWide
    cases result
    have firstAbove : wideFirst.val ≤ first.val := by
      rw [Px.fit?_eq_some_iff.mp isFirst, Px.fit?_eq_some_iff.mp isWideFirst]
      omega
    obtain ⟨notMore, nextAbove⟩ :=
      block_le_of_wider spaceNatural wider blockSound upright firstAbove isGroup isWideGroup
    obtain ⟨laterNotMore, notLower⟩ := ih restSound nextAbove isLater isWideLater
    rw [List.length_append, List.length_append]
    exact ⟨Nat.add_le_add notMore laterNotMore, notLower⟩

/-- In a wider column a page has no more lines and is not higher. -/
theorem ofBlocks_le_of_wider (sound : ∀ block ∈ blocks, block.Sound ∧ 0 ≤ block.lineHeight.val)
    (flowed : ofBlocks? column space gap blocks = some flow)
    (flowedWide : ofBlocks? wide space gap blocks = some wideFlow) :
    wideFlow.lines.length ≤ flow.lines.length ∧ wideFlow.height.val ≤ flow.height.val := by
  cases blocks with
  | nil =>
    cases flowed
    cases flowedWide
    exact ⟨Nat.le_refl _, Int.le_refl _⟩
  | cons block rest =>
    obtain ⟨⟨blockSound, upright⟩, restSound⟩ := List.forall_mem_cons.mp sound
    obtain ⟨⟨group, next⟩, isGroup, flowed⟩ := Option.bind_eq_some_iff.mp flowed
    obtain ⟨⟨later, final⟩, isLater, result⟩ := Option.bind_eq_some_iff.mp flowed
    cases result
    obtain ⟨⟨wideGroup, wideNext⟩, isWideGroup, flowedWide⟩ :=
      Option.bind_eq_some_iff.mp flowedWide
    obtain ⟨⟨wideLater, wideFinal⟩, isWideLater, result⟩ := Option.bind_eq_some_iff.mp flowedWide
    cases result
    obtain ⟨notMore, nextAbove⟩ := block_le_of_wider spaceNatural wider blockSound upright
      (Int.le_refl _) isGroup isWideGroup
    obtain ⟨laterNotMore, notLower⟩ :=
      further_le_of_wider spaceNatural wider restSound nextAbove isLater isWideLater
    rw [List.length_append, List.length_append]
    exact ⟨Nat.add_le_add notMore laterNotMore, notLower⟩

end Wider

private theorem sound_of_measured {font : Font} {paragraphs : List Paragraph}
    (natural : font.Natural paragraphs)
    (worded : ∀ paragraph ∈ paragraphs, paragraph.Worded)
    (measured : paragraphs.mapM (Block.of? font) = some blocks) :
    ∀ block ∈ blocks, block.Sound ∧ block.lineHeight = font.lineHeight := by
  intro block member
  obtain ⟨paragraph, inParagraphs, asked⟩ :=
    exists_of_mem_answers (forall₂_of_mapM_eq_some measured) member
  obtain ⟨isParagraph, lineHeight⟩ := paragraph_of_block? asked
  refine ⟨⟨isParagraph ▸ worded paragraph inParagraphs, fun word isWord => ?_⟩, lineHeight⟩
  obtain ⟨inWords, isWidth⟩ := width_of_block? asked isWord
  exact natural.word paragraph inParagraphs word.text inWords word.width isWidth

/-- Filling lines as long as words fit breaks every paragraph at best. -/
theorem breaks_at_best :
    (∀ column space gap blocks flow, 0 ≤ space.val → (∀ block ∈ blocks, block.Sound) →
      ofBlocks? column space gap blocks = some flow →
      ∃ groups, flow.lines = groups.flatten ∧
        List.Forall₂ (Block.Laid column space) blocks groups) ∧
    (∀ narrow wide space gap blocks flow wideFlow, 0 ≤ space.val →
      (∀ block ∈ blocks, block.Sound ∧ 0 ≤ block.lineHeight.val) → narrow.val ≤ wide.val →
      ofBlocks? narrow space gap blocks = some flow →
      ofBlocks? wide space gap blocks = some wideFlow →
      wideFlow.lines.length ≤ flow.lines.length ∧ wideFlow.height.val ≤ flow.height.val) ∧
    (∀ font column paragraphs flow, font.Natural paragraphs →
      (∀ paragraph ∈ paragraphs, paragraph.Worded) →
      ofParagraphs? font column paragraphs = some flow →
      ∃ space blocks groups, font.width? " " = some space ∧
        paragraphs.mapM (Block.of? font) = some blocks ∧ flow.lines = groups.flatten ∧
        List.Forall₂ (Block.Laid column space) blocks groups) ∧
    ∀ font narrow wide paragraphs flow wideFlow, font.Natural paragraphs → 0 ≤ font.lineHeight.val →
      (∀ paragraph ∈ paragraphs, paragraph.Worded) → narrow.val ≤ wide.val →
      ofParagraphs? font narrow paragraphs = some flow →
      ofParagraphs? font wide paragraphs = some wideFlow →
      wideFlow.lines.length ≤ flow.lines.length ∧ wideFlow.height.val ≤ flow.height.val := by
  refine ⟨fun _ _ _ _ _ => laid_of_ofBlocks?, fun _ _ _ _ _ _ _ spaceNatural sound wider =>
    ofBlocks_le_of_wider spaceNatural wider sound, ?_, ?_⟩
  · intro font column paragraphs flow natural worded flowed
    obtain ⟨space, blocks, isSpace, measured, flowed⟩ := exists_measured flowed
    have sound := sound_of_measured natural worded measured
    obtain ⟨groups, isFlat, laid⟩ := laid_of_ofBlocks? (natural.space _ isSpace)
      (fun block member => (sound block member).1) flowed
    exact ⟨space, blocks, groups, isSpace, measured, isFlat, laid⟩
  · intro font narrow wide paragraphs flow wideFlow natural upright worded wider flowed flowedWide
    obtain ⟨space, blocks, isSpace, measured, flowed⟩ := exists_measured flowed
    obtain ⟨sameSpace, sameBlocks, isSameSpace, sameMeasured, flowedWide⟩ :=
      exists_measured flowedWide
    cases isSpace.symm.trans isSameSpace
    cases measured.symm.trans sameMeasured
    have sound := sound_of_measured natural worded measured
    refine ofBlocks_le_of_wider (natural.space _ isSpace) wider (fun block member => ?_) flowed
      flowedWide
    obtain ⟨blockSound, lineHeight⟩ := sound block member
    exact ⟨blockSound, lineHeight ▸ upright⟩

/-- A page in two columns under a font, and a paragraph whose word was given another width the second
time. -/
theorem breaks_at_best_twoColumns :
    (∃ flow wideFlow,
      ofParagraphs? Font.standard 66 [.header 1 [], .regular ["one", "two", "three", "four"]] =
        some flow ∧
      ofParagraphs? Font.standard 90 [.header 1 [], .regular ["one", "two", "three", "four"]] =
        some wideFlow ∧
      flow.lines.map FlowLine.text = ["", "one two", "three four"] ∧
      (wideFlow.lines.length ≤ flow.lines.length ∧ wideFlow.height.val ≤ flow.height.val) ∧
      ∃ space blocks groups, Font.standard.width? " " = some space ∧
        [Paragraph.header 1 [], .regular ["one", "two", "three", "four"]].mapM
          (Block.of? Font.standard) = some blocks ∧
        flow.lines = groups.flatten ∧ List.Forall₂ (Block.Laid 66 space) blocks groups) ∧
    ∃ flow wideFlow,
      ofBlocks? 40 6 6 [⟨none, 12, [⟨"word", 24⟩, ⟨"word", 41⟩]⟩] = some flow ∧
      ofBlocks? 80 6 6 [⟨none, 12, [⟨"word", 24⟩, ⟨"word", 41⟩]⟩] = some wideFlow ∧
      (wideFlow.lines.length ≤ flow.lines.length ∧ wideFlow.height.val ≤ flow.height.val) ∧
      ∃ groups, flow.lines = groups.flatten ∧
        List.Forall₂ (Block.Laid 40 6) [⟨none, 12, [⟨"word", 24⟩, ⟨"word", 41⟩]⟩] groups := by
  constructor
  · have counted : (ofParagraphs? Font.standard 66
        [.header 1 [], .regular ["one", "two", "three", "four"]]).map
          (fun flow => flow.lines.map FlowLine.text) = some ["", "one two", "three four"] := by
      decide +kernel
    obtain ⟨flow, flowed, texts⟩ := Option.map_eq_some_iff.mp counted
    have formed : (ofParagraphs? Font.standard 90
        [.header 1 [], .regular ["one", "two", "three", "four"]]).isSome := by
      decide +kernel
    obtain ⟨wideFlow, flowedWide⟩ := Option.isSome_iff_exists.mp formed
    have natural : Font.standard.Natural [.header 1 [], .regular ["one", "two", "three", "four"]] :=
      ⟨by decide, by decide⟩
    exact ⟨flow, wideFlow, flowed, flowedWide, texts,
      breaks_at_best.2.2.2 _ 66 90 _ _ _ natural (by decide) (by decide) (by decide) flowed
        flowedWide,
      breaks_at_best.2.2.1 _ _ _ _ natural (by decide) flowed⟩
  · have sound : ∀ block ∈ [(⟨none, 12, [⟨"word", 24⟩, ⟨"word", 41⟩]⟩ : Block)], block.Sound :=
      List.forall_mem_singleton.mpr ⟨by decide, by simp [Natural]; decide⟩
    obtain ⟨flow, flowed⟩ := Option.isSome_iff_exists.mp
      (show (ofBlocks? 40 6 6 [⟨none, 12, [⟨"word", 24⟩, ⟨"word", 41⟩]⟩]).isSome by decide +kernel)
    obtain ⟨wideFlow, flowedWide⟩ := Option.isSome_iff_exists.mp
      (show (ofBlocks? 80 6 6 [⟨none, 12, [⟨"word", 24⟩, ⟨"word", 41⟩]⟩]).isSome by decide +kernel)
    exact ⟨flow, wideFlow, flowed, flowedWide,
      breaks_at_best.2.1 40 80 6 6 _ _ _ (by decide)
        (fun block member => ⟨sound block member, by
          rw [List.mem_singleton.mp member]
          decide⟩) (by decide) flowed flowedWide,
      breaks_at_best.1 _ _ _ _ _ (by decide) sound flowed⟩

/-- A header without words takes a line, though no group of words is needed for it, and in a column
of negative width that line is wider than the column. -/
theorem header_without_words_takes_line :
    Font.standard.Natural [.header 1 []] ∧ (Paragraph.header 1 []).Worded ∧
      (ofParagraphs? Font.standard 66 [.header 1 []]).map (fun flow => flow.lines.length) = some 1 ∧
      IsCut (Fits 66 6 (headerScale 1)) [] [] ∧
      (ofParagraphs? Font.standard (Px.saturate (-1)) [.header 1 []]).map
        (fun flow => flow.lines.map fun line => (line.text, line.width)) = some [("", 0)] := by
  refine ⟨⟨by decide, by decide⟩, by decide, by decide +kernel, ⟨rfl, by simp, by simp⟩,
    by decide +kernel⟩

end Flow

end Handbook
