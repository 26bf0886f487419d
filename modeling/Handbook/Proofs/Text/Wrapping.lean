import Handbook.Proofs.Answers
import Handbook.Proofs.Markup.Printing
import Handbook.Proofs.Text.Rows

namespace Handbook

namespace Paragraph

def Worded (paragraph : Paragraph) : Prop := ∀ word ∈ paragraph.words, word ≠ ""

instance (paragraph : Paragraph) : Decidable paragraph.Worded :=
  inferInstanceAs (Decidable (∀ word ∈ paragraph.words, word ≠ ""))

theorem WellFormed.worded {paragraph : Paragraph} (wellFormed : paragraph.WellFormed) :
    paragraph.Worded := by
  have every : ∀ word ∈ paragraph.words, Markup.IsWord word := by
    cases paragraph with
    | header level words => exact wellFormed.2
    | regular words => exact wellFormed.every
  rintro word member rfl
  have shows := (every "" member).notBlank
  cases shows

/-- The lines are those of a paragraph whose lines are `lineHeight` high before scaling: joined by
spaces they give its words, a line is empty only where a header has no words, and all lines have the
level, the scale and the height of the paragraph. -/
structure SetIn (paragraph : Paragraph) (lineHeight : Px) (lines : List FlowLine) : Prop where
  text : " ".intercalate (lines.map FlowLine.text) = paragraph.plainText
  takesLine : paragraph.level?.isSome ∨ paragraph.words ≠ [] → lines ≠ []
  emptyLine : ∀ line ∈ lines, line.text = "" →
    lines = [line] ∧ paragraph.level?.isSome ∧ paragraph.words = []
  look : ∀ line ∈ lines, line.level = paragraph.level? ∧
    line.scale = Flow.scaleOf paragraph.level? ∧ line.height = Flow.scaled lineHeight line.scale

end Paragraph

namespace Flow

variable {column space gap y last height lineHeight : Px} {scale : Binary32} {level : Option Nat}
  {line : Measured} {words filled : List Measured} {lines : List FlowLine} {block : Block}
  {blocks : List Block} {flow : Flow}

def Block.paragraph (block : Block) : Paragraph :=
  match block.level with
  | some level => .header level (block.words.map Measured.text)
  | none => .regular (block.words.map Measured.text)

@[simp]
theorem level?_paragraph (block : Block) : block.paragraph.level? = block.level := by
  unfold Block.paragraph
  split <;> simp_all [Paragraph.level?]

@[simp]
theorem words_paragraph (block : Block) :
    block.paragraph.words = block.words.map Measured.text := by
  unfold Block.paragraph
  split <;> rfl

private theorem intercalate_joined (first second : String) (later : List String) :
    " ".intercalate ((first ++ " " ++ second) :: later) =
      " ".intercalate (first :: second :: later) := by
  cases later with
  | nil => simp [String.intercalate_cons_cons]
  | cons third rest => simp [String.intercalate_cons_cons, String.append_assoc]

/-- A line with text and the words behind it fill lines with text, and the same words stand in
them. -/
theorem text_of_fill? (shows : line.text ≠ "") (worded : ∀ word ∈ words, word.text ≠ "")
    (fills : fill? column space scale line words = some filled) :
    filled ≠ [] ∧ (∀ other ∈ filled, other.text ≠ "") ∧
      " ".intercalate (filled.map Measured.text) =
        " ".intercalate (line.text :: words.map Measured.text) := by
  induction words generalizing line filled with
  | nil =>
    cases fills
    exact ⟨List.cons_ne_nil _ _, by simpa using shows, rfl⟩
  | cons word rest ih =>
    obtain ⟨wordShows, restWorded⟩ := List.forall_mem_cons.mp worded
    rw [fill?, if_neg shows] at fills
    obtain ⟨spaced, -, fills⟩ := Option.bind_eq_some_iff.mp fills
    obtain ⟨joined, -, fills⟩ := Option.bind_eq_some_iff.mp fills
    split at fills
    · -- The line is full: the word starts the next one.
      obtain ⟨later, fillsLater, result⟩ := Option.bind_eq_some_iff.mp fills
      cases result
      obtain ⟨someLine, laterShow, sameText⟩ := ih wordShows restWorded fillsLater
      obtain ⟨second, others, isLater⟩ := List.exists_cons_of_ne_nil someLine
      refine ⟨List.cons_ne_nil _ _, List.forall_mem_cons.mpr ⟨shows, laterShow⟩, ?_⟩
      calc " ".intercalate ((line :: later).map Measured.text)
          = line.text ++ " " ++ " ".intercalate (later.map Measured.text) := by
            rw [isLater, List.map_cons, List.map_cons, String.intercalate_cons_cons]
        _ = line.text ++ " " ++ " ".intercalate (word.text :: rest.map Measured.text) := by
            rw [sameText]
        _ = " ".intercalate (line.text :: (word :: rest).map Measured.text) := by
            rw [List.map_cons, String.intercalate_cons_cons]
    · have joinedShows : line.text ++ " " ++ word.text ≠ "" := by simp
      obtain ⟨someLine, allShow, sameText⟩ := ih joinedShows restWorded fills
      exact ⟨someLine, allShow, sameText.trans (intercalate_joined _ _ _)⟩

private theorem fill?_empty (word : Measured) (rest : List Measured) :
    fill? column space scale ⟨"", 0⟩ (word :: rest) = fill? column space scale word rest := by
  rw [fill?, if_pos rfl]

/-- What stacking makes of a filled line: its text stays, its width is scaled, and its look is that of
the paragraph. -/
structure Measured.StacksTo (height : Px) (scale : Binary32) (level : Option Nat) (line : Measured)
    (shown : FlowLine) : Prop where
  text : shown.text = line.text
  width : shown.width = scaled line.width shown.scale
  look : shown.level = level ∧ shown.scale = scale ∧ shown.height = height

theorem stacksTo_of_stack? (stacked : stack? height scale level y filled = some (lines, last)) :
    List.Forall₂ (Measured.StacksTo height scale level) filled lines := by
  induction filled generalizing y lines with
  | nil =>
    cases stacked
    exact .nil
  | cons first rest ih =>
    obtain ⟨next, -, stacked⟩ := Option.bind_eq_some_iff.mp stacked
    obtain ⟨⟨later, final⟩, stacksLater, result⟩ := Option.bind_eq_some_iff.mp stacked
    cases result
    exact .cons ⟨rfl, rfl, rfl, rfl, rfl⟩ (ih stacksLater)

private theorem texts_of_stack?
    (stacked : stack? height scale level y filled = some (lines, last)) :
    lines.map FlowLine.text = filled.map Measured.text :=
  map_answers (stacksTo_of_stack? stacked) fun _ _ _ stacksTo => stacksTo.text

/-- The lines of a paragraph look as its level says, whatever its words are. -/
theorem look_of_block? (flowed : block? column space y block = some (lines, last)) :
    ∀ line ∈ lines, line.level = block.level ∧ line.scale = scaleOf block.level ∧
      line.height = scaled block.lineHeight line.scale := by
  obtain ⟨filled, -, stacked⟩ := Option.bind_eq_some_iff.mp flowed
  intro line member
  obtain ⟨_, -, stacksTo⟩ := exists_of_mem_answers (stacksTo_of_stack? stacked) member
  obtain ⟨level, scale, height⟩ := stacksTo.look
  exact ⟨level, scale, height.trans (by rw [scale])⟩

/-- A paragraph without words has no line, but a header has one without text. -/
theorem setIn_of_noWords (noWords : block.words = [])
    (flowed : block? column space y block = some (lines, last)) :
    block.paragraph.SetIn block.lineHeight lines := by
  have looks := look_of_block? flowed
  rw [← level?_paragraph] at looks
  obtain ⟨filled, fills, stacked⟩ := Option.bind_eq_some_iff.mp flowed
  have texts := texts_of_stack? stacked
  rw [noWords] at fills
  cases fills
  cases isLevel : block.level with
  | none =>
    have noLines : lines = [] := by simpa [isLevel] using texts
    subst noLines
    exact ⟨by simp [Paragraph.plainText, noWords], by simp [isLevel, noWords],
      List.forall_mem_nil _, looks⟩
  | some level =>
    have oneLine : lines.map FlowLine.text = [""] := by simpa [isLevel] using texts
    obtain ⟨line, isLine, isEmpty⟩ := List.map_eq_singleton_iff.mp oneLine
    subst isLine
    refine ⟨?_, fun _ => List.cons_ne_nil _ _, ?_, looks⟩
    · simp [Paragraph.plainText, noWords, isEmpty]
    · simp [isLevel, noWords]

/-- The words of a paragraph fill lines that all have text, so none of them is left out. -/
theorem exists_filled_of_words {word : Measured} (isWords : block.words = word :: words)
    (wordShows : word.text ≠ "") (restWorded : ∀ other ∈ words, other.text ≠ "")
    (flowed : block? column space y block = some (lines, last)) :
    ∃ filled, fill? column space (scaleOf block.level) word words = some filled ∧
      stack? (scaled block.lineHeight (scaleOf block.level)) (scaleOf block.level) block.level y
        filled = some (lines, last) := by
  obtain ⟨filled, fills, stacked⟩ := Option.bind_eq_some_iff.mp flowed
  rw [isWords, fill?_empty] at fills
  obtain ⟨-, allShow, -⟩ := text_of_fill? wordShows restWorded fills
  have allShown : (filled.filter fun line => line.text != "" || block.level.isSome) = filled := by
    apply List.filter_eq_self.mpr
    intro line member
    simp [allShow line member]
  rw [allShown] at stacked
  exact ⟨filled, fills, stacked⟩

private theorem setIn_of_words {word : Measured} (isWords : block.words = word :: words)
    (wordShows : word.text ≠ "") (restWorded : ∀ other ∈ words, other.text ≠ "")
    (flowed : block? column space y block = some (lines, last)) :
    block.paragraph.SetIn block.lineHeight lines := by
  have looks := look_of_block? flowed
  rw [← level?_paragraph] at looks
  obtain ⟨filled, fills, stacked⟩ := exists_filled_of_words isWords wordShows restWorded flowed
  have texts := texts_of_stack? stacked
  obtain ⟨someLine, allShow, sameText⟩ := text_of_fill? wordShows restWorded fills
  refine ⟨?_, ?_, ?_, looks⟩
  · rw [texts, sameText, Paragraph.plainText, words_paragraph, isWords, List.map_cons]
  · rintro - rfl
    exact someLine (List.map_eq_nil_iff.mp texts.symm)
  · intro line member isEmpty
    have inTexts : line.text ∈ filled.map Measured.text := texts ▸ List.mem_map_of_mem member
    obtain ⟨other, inFilled, same⟩ := List.mem_map.mp inTexts
    exact absurd (same.trans isEmpty) (allShow other inFilled)

private theorem setIn_of_block? (worded : block.paragraph.Worded)
    (flowed : block? column space y block = some (lines, last)) :
    block.paragraph.SetIn block.lineHeight lines := by
  unfold Paragraph.Worded at worded
  rw [words_paragraph, List.forall_mem_map] at worded
  cases isWords : block.words with
  | nil => exact setIn_of_noWords isWords flowed
  | cons word rest =>
    rw [isWords] at worded
    obtain ⟨wordShows, restWorded⟩ := List.forall_mem_cons.mp worded
    exact setIn_of_words isWords wordShows restWorded flowed

/-- The lines of a flow part into groups, one for each paragraph in their order. -/
theorem groups_of_ofBlocks? (flowed : ofBlocks? column space gap blocks = some flow) :
    ∃ groups, flow.lines = groups.flatten ∧
      List.Forall₂ (Block.Gives column space) blocks groups := by
  obtain ⟨groups, fit, -, isFlat, -⟩ := spaced_of_ofBlocks? flowed
  exact ⟨groups, isFlat, fit⟩

private theorem setIn_of_ofBlocks? (worded : ∀ block ∈ blocks, block.paragraph.Worded)
    (flowed : ofBlocks? column space gap blocks = some flow) :
    ∃ groups, flow.lines = groups.flatten ∧
      List.Forall₂ (fun block group => block.paragraph.SetIn block.lineHeight group) blocks
        groups := by
  obtain ⟨groups, isFlat, fit⟩ := groups_of_ofBlocks? flowed
  refine ⟨groups, isFlat, ((List.forall₂_and_left _ _).mpr ⟨worded, fit⟩).imp ?_⟩
  rintro block group ⟨blockWorded, y, last, isGroup⟩
  exact setIn_of_block? blockWorded isGroup

theorem asks_of_measured? {font : Font} {text : String} {measured : Measured}
    (asked : Measured.of? font text = some measured) :
    measured.text = text ∧ font.width? text = some measured.width := by
  obtain ⟨width, isWidth, result⟩ := Option.bind_eq_some_iff.mp asked
  cases result
  exact ⟨rfl, isWidth⟩

theorem paragraph_of_block? {font : Font} {paragraph : Paragraph}
    (asked : Block.of? font paragraph = some block) :
    block.paragraph = paragraph ∧ block.lineHeight = font.lineHeight := by
  obtain ⟨words, measured, result⟩ := Option.bind_eq_some_iff.mp asked
  cases result
  have sameWords : words.map Measured.text = paragraph.words := by
    have answers := (forall₂_of_mapM_eq_some measured).imp fun _ _ asked =>
      (asks_of_measured? asked).1.symm
    rw [← List.forall₂_map_right_iff, List.forall₂_eq_eq_eq] at answers
    exact answers.symm
  cases paragraph <;> exact ⟨by rw [Block.paragraph, sameWords]; rfl, rfl⟩

/-- Every word of a measured paragraph has the width that the font told. -/
theorem width_of_block? {font : Font} {paragraph : Paragraph}
    (asked : Block.of? font paragraph = some block) {word : Measured}
    (member : word ∈ block.words) :
    word.text ∈ paragraph.words ∧ font.width? word.text = some word.width := by
  obtain ⟨words, measured, result⟩ := Option.bind_eq_some_iff.mp asked
  cases result
  obtain ⟨text, inWords, asksWord⟩ :=
    exists_of_mem_answers (forall₂_of_mapM_eq_some measured) member
  obtain ⟨rfl, isWidth⟩ := asks_of_measured? asksWord
  exact ⟨inWords, isWidth⟩

/-- Flowing paragraphs is asking the font for the widths of a space and of the words, and flowing
what it tells. -/
theorem exists_measured {font : Font} {paragraphs : List Paragraph}
    (flowed : ofParagraphs? font column paragraphs = some flow) :
    ∃ space blocks, font.width? " " = some space ∧
      paragraphs.mapM (Block.of? font) = some blocks ∧
      ofBlocks? column space (Flow.gap font) blocks = some flow := by
  obtain ⟨space, isSpace, flowed⟩ := Option.bind_eq_some_iff.mp flowed
  obtain ⟨blocks, measured, flowed⟩ := Option.bind_eq_some_iff.mp flowed
  exact ⟨space, blocks, isSpace, measured, flowed⟩

/-- Flowing paragraphs is flowing what the font measures of them. -/
theorem exists_blocks {font : Font} {paragraphs : List Paragraph}
    (flowed : ofParagraphs? font column paragraphs = some flow) :
    ∃ space blocks, ofBlocks? column space (Flow.gap font) blocks = some flow ∧
      blocks.map Block.paragraph = paragraphs ∧
      ∀ block ∈ blocks, block.lineHeight = font.lineHeight := by
  obtain ⟨space, blocks, -, measured, flowed⟩ := exists_measured flowed
  have answers := forall₂_of_mapM_eq_some measured
  refine ⟨space, blocks, flowed, ?_, ?_⟩
  · have same := answers.imp fun _ _ asked => (paragraph_of_block? asked).1.symm
    rw [← List.forall₂_map_right_iff, List.forall₂_eq_eq_eq] at same
    exact same.symm
  · intro block member
    obtain ⟨paragraph, -, asked⟩ := exists_of_mem_answers answers member
    exact (paragraph_of_block? asked).2

private theorem setIn_of_ofParagraphs? {font : Font} {paragraphs : List Paragraph}
    (worded : ∀ paragraph ∈ paragraphs, paragraph.Worded)
    (flowed : ofParagraphs? font column paragraphs = some flow) :
    ∃ groups, flow.lines = groups.flatten ∧
      List.Forall₂ (fun paragraph group => paragraph.SetIn font.lineHeight group) paragraphs
        groups := by
  obtain ⟨space, blocks, stacked, rfl, heights⟩ := exists_blocks flowed
  obtain ⟨groups, isFlat, fit⟩ := setIn_of_ofBlocks? (List.forall_mem_map.mp worded) stacked
  refine ⟨groups, isFlat, List.forall₂_map_left_iff.mpr ?_⟩
  refine ((List.forall₂_and_left _ _).mpr ⟨heights, fit⟩).imp ?_
  rintro block group ⟨height, isSet⟩
  exact height ▸ isSet

theorem height_of_ofParagraphs? {font : Font} {paragraphs : List Paragraph}
    (flowed : ofParagraphs? font column paragraphs = some flow) :
    ∀ line ∈ flow.lines, line.height = scaled font.lineHeight (scaleOf line.level) := by
  intro line member
  obtain ⟨space, blocks, stacked, -, heights⟩ := exists_blocks flowed
  obtain ⟨groups, isFlat, fit⟩ := groups_of_ofBlocks? stacked
  rw [isFlat] at member
  obtain ⟨group, isGroup, inGroup⟩ := List.mem_flatten.mp member
  obtain ⟨block, isBlock, y, last, gives⟩ := exists_of_mem_answers fit isGroup
  obtain ⟨level, scale, height⟩ := look_of_block? gives line inGroup
  rw [height, scale, level, heights block isBlock]

/-- Flowing loses no word of a page and adds none. The lines part into groups, one for each paragraph
in their order, and each group holds the words of its paragraph. The words may have been measured in
any way, so a host may answer the same question differently each time; under a font that measures
alike the lines of a group are as high as the font and the header level say. -/
theorem words_kept :
    (∀ text, ∀ paragraph ∈ Markup.read text, paragraph.Worded) ∧
    (∀ column space gap blocks flow, (∀ block ∈ blocks, block.paragraph.Worded) →
      ofBlocks? column space gap blocks = some flow →
      ∃ groups, flow.lines = groups.flatten ∧
        List.Forall₂ (fun block group => block.paragraph.SetIn block.lineHeight group) blocks
          groups) ∧
    ∀ font column paragraphs flow, (∀ paragraph ∈ paragraphs, paragraph.Worded) →
      ofParagraphs? font column paragraphs = some flow →
      ∃ groups, flow.lines = groups.flatten ∧
        List.Forall₂ (fun paragraph group => paragraph.SetIn font.lineHeight group) paragraphs
          groups :=
  ⟨fun text paragraph member => (Markup.wellFormed_read text paragraph member).worded,
    fun _ _ _ _ _ => setIn_of_ofBlocks?, fun _ _ _ _ => setIn_of_ofParagraphs?⟩

/-- A page with an empty header, in a column that holds two of its five words a line. -/
theorem words_kept_emptyHeader :
    ∃ flow, ofParagraphs? Font.standard 66 (Markup.read "#\none two three\nfour five") = some flow ∧
      flow.lines.map FlowLine.text = ["", "one two", "three four", "five"] ∧
      ∃ groups, flow.lines = groups.flatten ∧
        List.Forall₂ (fun paragraph group => paragraph.SetIn Font.standard.lineHeight group)
          (Markup.read "#\none two three\nfour five") groups := by
  have counted :
      (ofParagraphs? Font.standard 66 (Markup.read "#\none two three\nfour five")).map
        (fun flow => flow.lines.map FlowLine.text) =
        some ["", "one two", "three four", "five"] := by
    decide +kernel
  obtain ⟨flow, flowed, texts⟩ := Option.map_eq_some_iff.mp counted
  have worded := words_kept.1 "#\none two three\nfour five"
  exact ⟨flow, flowed, texts, words_kept.2.2 _ _ _ _ worded flowed⟩

/-- A word that a host gives another width the second time stands twice all the same. -/
example :
    (ofBlocks? 40 6 6 [⟨none, 12, [⟨"word", 24⟩, ⟨"word", 10⟩, ⟨"word", 41⟩]⟩]).map
      (fun flow => flow.lines.map FlowLine.text) = some ["word word", "word"] := by
  decide +kernel

end Flow

end Handbook
