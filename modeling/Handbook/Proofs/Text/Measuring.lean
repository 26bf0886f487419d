import Handbook.Proofs.Text.Breaking

namespace Handbook

theorem Px.eq_wrap_iff {pixel : Px} {value : Int} :
    pixel = wrap value ↔ (4294967296 : Int) ∣ value - pixel.val := by
  have low := pixel.lower_le
  have high := pixel.le_upper
  rw [ext_val_iff]
  show pixel.val = value.bmod 4294967296 ↔ _
  rw [Int.bmod_def]
  omega

namespace Font

/-- How much wider characters make a text, over the integers. -/
def advanceOf (advance : Char → Int) : List Char → Int
  | [] => 0
  | char :: rest => advance char + advanceOf advance rest

/-- Where a font tells the width of a text, it is the sum over its characters modulo the pixel
range. -/
def AddsUp (font : Font) (advance : Char → Int) : Prop :=
  ∀ text, ∀ width ∈ font.width? text, width = Px.wrap (advanceOf advance text.toList)

variable {advance : Char → Int}

private theorem advanceOf_append (first second : List Char) :
    advanceOf advance (first ++ second) = advanceOf advance first + advanceOf advance second := by
  induction first with
  | nil => simp [advanceOf]
  | cons char rest ih =>
    rw [List.cons_append, advanceOf, advanceOf, ih]
    omega

private theorem advanceOf_const (width : Int) (chars : List Char) :
    advanceOf (fun _ => width) chars = chars.length * width := by
  induction chars with
  | nil => simp [advanceOf]
  | cons char rest ih =>
    rw [advanceOf, ih, List.length_cons, Int.natCast_add, Int.add_mul]
    omega

/-- Cells add up, also where the count of characters leaves the pixel range. -/
theorem addsUp_cells (advance lineHeight : Px) :
    (cells advance lineHeight).AddsUp fun _ => advance.val := by
  intro text width isWidth
  simp only [cells, Option.mem_def, Px.fit?_eq_some_iff] at isWidth
  have count : (4294967296 : Int) ∣ text.length - (Px.wrap text.length).val :=
    Px.eq_wrap_iff.mp rfl
  rw [advanceOf_const, String.length_toList, Px.eq_wrap_iff, isWidth, ← Int.sub_mul]
  exact Int.dvd_mul_of_dvd_left count

private theorem val_of_sumWidths? {charWidth : Char → Px} {total width : Px} {chars : List Char}
    (summed : sumWidths? charWidth total chars = some width) :
    width.val = total.val + advanceOf (fun char => (charWidth char).val) chars := by
  induction chars generalizing total with
  | nil =>
    cases summed
    simp [advanceOf]
  | cons char rest ih =>
    obtain ⟨more, isMore, summed⟩ := Option.bind_eq_some_iff.mp summed
    rw [ih summed, Px.fit?_eq_some_iff.mp isMore, advanceOf]
    omega

private theorem addsUp_proportional (charWidth : Char → Px) (lineHeight : Px) :
    (proportional charWidth lineHeight).AddsUp fun char => (charWidth char).val := by
  intro text width isWidth
  rw [Px.eq_wrap_iff, val_of_sumWidths? isWidth, Px.val_zero]
  exact ⟨0, by omega⟩

end Font

namespace Flow

/-- Fills lines with words as `fill?` does, but measures the whole text of each candidate line. -/
def fillMeasured? (font : Font) (column : Px) (scale : Binary32) (line : String) :
    List String → Option (List String)
  | [] => some [line]
  | word :: rest =>
    if line = "" then fillMeasured? font column scale word rest
    else do
      let candidate := line ++ " " ++ word
      let width ← font.width? candidate
      if column.val < (scaled width scale).val then
        return line :: (← fillMeasured? font column scale word rest)
      else fillMeasured? font column scale candidate rest

def blockMeasured? (font : Font) (column y : Px) (paragraph : Paragraph) :
    Option (List FlowLine × Px) := do
  let scale := scaleOf paragraph.level?
  let texts ← fillMeasured? font column scale "" paragraph.words
  let shown := texts.filter fun text => text != "" || paragraph.level?.isSome
  let lines ← shown.mapM (Measured.of? font)
  stack? (scaled font.lineHeight scale) scale paragraph.level? y lines

def furtherMeasured? (font : Font) (column y : Px) :
    List Paragraph → Option (List FlowLine × Px)
  | [] => some ([], y)
  | paragraph :: rest => do
    let start ← Px.fit? (y.val + (Flow.gap font).val)
    let (lines, next) ← blockMeasured? font column start paragraph
    let (later, last) ← furtherMeasured? font column next rest
    return (lines ++ later, last)

/-- The flow of paragraphs in a column in which every candidate line is measured as a whole. -/
def ofParagraphsMeasured? (font : Font) (column : Px) : List Paragraph → Option Flow
  | [] => some {}
  | first :: rest => do
    let (lines, next) ← blockMeasured? font column 0 first
    let (later, last) ← furtherMeasured? font column next rest
    return ⟨lines ++ later, last⟩

variable {font : Font} {advance : Char → Int} {column space y last : Px} {scale : Binary32}
  {line : Measured} {words filled : List Measured} {texts : List String} {lines : List FlowLine}
  {block : Block} {blocks : List Block} {paragraph : Paragraph} {paragraphs : List Paragraph}
  {flow measuredFlow : Flow}

/-- The width of the line is the one that its text adds up to. -/
def Measured.AddsUp (advance : Char → Int) (line : Measured) : Prop :=
  line.width = Px.wrap (Font.advanceOf advance line.text.toList)

/-- Adding up the widths of a line, a space and a word is adding up the joined text. -/
theorem addsUp_joined {word : Measured} {spaced joined : Px} (lineAdds : line.AddsUp advance)
    (spaceAdds : space = Px.wrap (Font.advanceOf advance [' '])) (wordAdds : word.AddsUp advance)
    (isSpaced : Px.fit? (line.width.val + space.val) = some spaced)
    (isJoined : Px.fit? (spaced.val + word.width.val) = some joined) :
    (⟨line.text ++ " " ++ word.text, joined⟩ : Measured).AddsUp advance := by
  unfold Measured.AddsUp at lineAdds wordAdds ⊢
  rw [Px.eq_wrap_iff] at lineAdds spaceAdds wordAdds ⊢
  have isSum : joined.val = line.width.val + space.val + word.width.val := by
    rw [Px.fit?_eq_some_iff.mp isJoined, Px.fit?_eq_some_iff.mp isSpaced]
  have isText : Font.advanceOf advance (line.text ++ " " ++ word.text).toList =
      Font.advanceOf advance line.text.toList + Font.advanceOf advance [' '] +
        Font.advanceOf advance word.text.toList := by
    rw [String.toList_append, String.toList_append, Font.advanceOf_append, Font.advanceOf_append]
    rfl
  rw [isText, isSum]
  omega

private theorem addsUp_of_fill? (spaceAdds : space = Px.wrap (Font.advanceOf advance [' ']))
    (lineAdds : line.AddsUp advance) (wordsAdd : ∀ word ∈ words, word.AddsUp advance)
    (fills : fill? column space scale line words = some filled) :
    ∀ line ∈ filled, line.AddsUp advance := by
  induction words generalizing line filled with
  | nil =>
    cases fills
    exact List.forall_mem_singleton.mpr lineAdds
  | cons word rest ih =>
    obtain ⟨wordAdds, restAdd⟩ := List.forall_mem_cons.mp wordsAdd
    rw [fill?] at fills
    split at fills
    · exact ih wordAdds restAdd fills
    · obtain ⟨spaced, isSpaced, fills⟩ := Option.bind_eq_some_iff.mp fills
      obtain ⟨joined, isJoined, fills⟩ := Option.bind_eq_some_iff.mp fills
      split at fills
      · obtain ⟨later, fillsLater, result⟩ := Option.bind_eq_some_iff.mp fills
        cases result
        exact List.forall_mem_cons.mpr ⟨lineAdds, ih wordAdds restAdd fillsLater⟩
      · exact ih (addsUp_joined lineAdds spaceAdds wordAdds isSpaced isJoined) restAdd fills

private theorem texts_of_fillMeasured? (adds : font.AddsUp advance)
    (spaceAdds : space = Px.wrap (Font.advanceOf advance [' ']))
    (lineAdds : line.AddsUp advance) (wordsAdd : ∀ word ∈ words, word.AddsUp advance)
    (fills : fill? column space scale line words = some filled)
    (fillsMeasured :
      fillMeasured? font column scale line.text (words.map Measured.text) = some texts) :
    texts = filled.map Measured.text := by
  induction words generalizing line filled texts with
  | nil =>
    cases fills
    cases fillsMeasured
    rfl
  | cons word rest ih =>
    obtain ⟨wordAdds, restAdd⟩ := List.forall_mem_cons.mp wordsAdd
    rw [fill?] at fills
    rw [List.map_cons, fillMeasured?] at fillsMeasured
    by_cases empty : line.text = ""
    · rw [if_pos empty] at fills fillsMeasured
      exact ih wordAdds restAdd fills fillsMeasured
    · rw [if_neg empty] at fills fillsMeasured
      obtain ⟨spaced, isSpaced, fills⟩ := Option.bind_eq_some_iff.mp fills
      obtain ⟨joined, isJoined, fills⟩ := Option.bind_eq_some_iff.mp fills
      obtain ⟨width, isWidth, fillsMeasured⟩ := Option.bind_eq_some_iff.mp fillsMeasured
      have joinedAdds := addsUp_joined lineAdds spaceAdds wordAdds isSpaced isJoined
      have same : width = joined := (adds _ width isWidth).trans joinedAdds.symm
      subst same
      split at fills
      · next full =>
        rw [if_pos full] at fillsMeasured
        obtain ⟨later, fillsLater, result⟩ := Option.bind_eq_some_iff.mp fills
        obtain ⟨laterTexts, measuresLater, measuredResult⟩ :=
          Option.bind_eq_some_iff.mp fillsMeasured
        cases result
        cases measuredResult
        rw [ih wordAdds restAdd fillsLater measuresLater, List.map_cons]
      · next fits =>
        rw [if_neg fits] at fillsMeasured
        exact ih joinedAdds restAdd fills fillsMeasured

private theorem eq_of_measured? (adds : font.AddsUp advance) {measured : Measured}
    (lineAdds : line.AddsUp advance) (asked : Measured.of? font line.text = some measured) :
    measured = line := by
  obtain ⟨sameText, isWidth⟩ := asks_of_measured? asked
  have sameWidth : measured.width = line.width := (adds _ _ isWidth).trans lineAdds.symm
  rw [Measured.mk.injEq]
  exact ⟨sameText, sameWidth⟩

private theorem eq_of_allMeasured (adds : font.AddsUp advance) {measured : List Measured}
    (filledAdd : ∀ line ∈ filled, line.AddsUp advance)
    (asked : (filled.map Measured.text).mapM (Measured.of? font) = some measured) :
    measured = filled := by
  have answers := forall₂_of_mapM_eq_some asked
  rw [List.forall₂_map_left_iff] at answers
  have same := ((List.forall₂_and_left _ _).mpr ⟨filledAdd, answers⟩).imp
    fun _ _ ⟨lineAdds, asksLine⟩ => (eq_of_measured? adds lineAdds asksLine).symm
  rw [List.forall₂_eq_eq_eq] at same
  exact same.symm

/-- The words of the paragraph have the widths that their texts add up to. -/
def Block.AddsUp (advance : Char → Int) (block : Block) : Prop :=
  ∀ word ∈ block.words, word.AddsUp advance

private theorem addsUp_of_measured (adds : font.AddsUp advance)
    (asked : Block.of? font paragraph = some block) : block.AddsUp advance :=
  fun word member => adds word.text word.width (width_of_block? asked member).2

theorem addsUp_empty : (⟨"", 0⟩ : Measured).AddsUp advance := by
  unfold Measured.AddsUp
  rw [Px.eq_wrap_iff]
  exact ⟨0, rfl⟩

/-- The line is as wide as its text. -/
def Measures (font : Font) (line : FlowLine) : Prop :=
  ∃ width ∈ font.width? line.text, line.width = scaled width line.scale

/-- Where the text of a line can be measured, the line is as wide. -/
theorem width_of_shown (adds : font.AddsUp advance)
    (spaceAdds : space = Px.wrap (Font.advanceOf advance [' '])) (blockAdds : block.AddsUp advance)
    (flowed : block? column space y block = some (lines, last)) {shown : FlowLine}
    (member : shown ∈ lines) :
    ∀ width ∈ font.width? shown.text, shown.width = scaled width shown.scale := by
  intro width isWidth
  obtain ⟨filled, fills, stacked⟩ := Option.bind_eq_some_iff.mp flowed
  have filledAdd := addsUp_of_fill? spaceAdds addsUp_empty blockAdds fills
  obtain ⟨line, inShown, isText, isScaled, -⟩ :=
    exists_of_mem_answers (stacksTo_of_stack? stacked) member
  have lineAdds := filledAdd line (List.mem_filter.mp inShown).1
  rw [isText] at isWidth
  rw [isScaled, adds _ width isWidth, lineAdds]

/-- Both ways flow a paragraph alike, and each line is as wide as its text. -/
theorem eq_of_blockMeasured? (adds : font.AddsUp advance)
    (spaceAdds : space = Px.wrap (Font.advanceOf advance [' ']))
    (asked : Block.of? font paragraph = some block)
    (flowed : block? column space y block = some (lines, last)) {answer : List FlowLine × Px}
    (flowedMeasured : blockMeasured? font column y paragraph = some answer) :
    answer = (lines, last) ∧ ∀ line ∈ lines, Measures font line := by
  have blockAdds := addsUp_of_measured adds asked
  obtain ⟨rfl, lineHeight⟩ := paragraph_of_block? asked
  obtain ⟨filled, fills, stacked⟩ := Option.bind_eq_some_iff.mp flowed
  obtain ⟨texts, fillsMeasured, flowedMeasured⟩ := Option.bind_eq_some_iff.mp flowedMeasured
  obtain ⟨measured, measures, stackedMeasured⟩ := Option.bind_eq_some_iff.mp flowedMeasured
  rw [level?_paragraph, words_paragraph] at fillsMeasured
  rw [level?_paragraph] at measures stackedMeasured
  have sameTexts := texts_of_fillMeasured? adds spaceAdds addsUp_empty blockAdds fills fillsMeasured
  have filledAdd := addsUp_of_fill? spaceAdds addsUp_empty blockAdds fills
  rw [sameTexts, List.filter_map] at measures
  have same := eq_of_allMeasured adds
    (fun line member => filledAdd line (List.mem_filter.mp member).1) measures
  subst same
  rw [← lineHeight] at stackedMeasured
  cases stacked.symm.trans stackedMeasured
  refine ⟨rfl, fun shown member => ?_⟩
  obtain ⟨line, inMeasured, isText, isScaled, -⟩ :=
    exists_of_mem_answers (stacksTo_of_stack? stacked) member
  obtain ⟨text, -, asksLine⟩ :=
    exists_of_mem_answers (forall₂_of_mapM_eq_some measures) inMeasured
  obtain ⟨rfl, isWidth⟩ := asks_of_measured? asksLine
  exact ⟨line.width, isText ▸ isWidth, isScaled⟩

section Pages
variable (adds : font.AddsUp advance)
  (spaceAdds : space = Px.wrap (Font.advanceOf advance [' ']))
include adds spaceAdds

private theorem eq_of_furtherMeasured?
    (asked : List.Forall₂ (fun paragraph block => Block.of? font paragraph = some block) paragraphs
      blocks)
    (flowed : further? column space (Flow.gap font) y blocks = some (lines, last))
    {answer : List FlowLine × Px}
    (flowedMeasured : furtherMeasured? font column y paragraphs = some answer) :
    answer = (lines, last) ∧ ∀ line ∈ lines, Measures font line := by
  induction asked generalizing y lines answer with
  | nil =>
    cases flowed
    cases flowedMeasured
    exact ⟨rfl, List.forall_mem_nil _⟩
  | cons asksFirst _ ih =>
    obtain ⟨start, isStart, flowed⟩ := Option.bind_eq_some_iff.mp flowed
    obtain ⟨⟨group, next⟩, isGroup, flowed⟩ := Option.bind_eq_some_iff.mp flowed
    obtain ⟨⟨later, final⟩, isLater, result⟩ := Option.bind_eq_some_iff.mp flowed
    cases result
    obtain ⟨sameStart, isSameStart, flowedMeasured⟩ := Option.bind_eq_some_iff.mp flowedMeasured
    cases isStart.symm.trans isSameStart
    obtain ⟨first, isFirst, flowedMeasured⟩ := Option.bind_eq_some_iff.mp flowedMeasured
    obtain ⟨rfl, groupMeasures⟩ := eq_of_blockMeasured? adds spaceAdds asksFirst isGroup isFirst
    obtain ⟨others, isOthers, result⟩ := Option.bind_eq_some_iff.mp flowedMeasured
    obtain ⟨rfl, laterMeasures⟩ := ih isLater isOthers
    cases result
    exact ⟨rfl, List.forall_mem_append.mpr ⟨groupMeasures, laterMeasures⟩⟩

private theorem eq_of_ofParagraphsMeasured?
    (asked : List.Forall₂ (fun paragraph block => Block.of? font paragraph = some block) paragraphs
      blocks)
    (flowed : ofBlocks? column space (Flow.gap font) blocks = some flow)
    (flowedMeasured : ofParagraphsMeasured? font column paragraphs = some measuredFlow) :
    measuredFlow = flow ∧ ∀ line ∈ flow.lines, Measures font line := by
  cases asked with
  | nil =>
    cases flowed
    cases flowedMeasured
    exact ⟨rfl, List.forall_mem_nil _⟩
  | cons asksFirst asksRest =>
    obtain ⟨⟨group, next⟩, isGroup, flowed⟩ := Option.bind_eq_some_iff.mp flowed
    obtain ⟨⟨later, final⟩, isLater, result⟩ := Option.bind_eq_some_iff.mp flowed
    cases result
    obtain ⟨first, isFirst, flowedMeasured⟩ := Option.bind_eq_some_iff.mp flowedMeasured
    obtain ⟨rfl, groupMeasures⟩ := eq_of_blockMeasured? adds spaceAdds asksFirst isGroup isFirst
    obtain ⟨others, isOthers, result⟩ := Option.bind_eq_some_iff.mp flowedMeasured
    obtain ⟨rfl, laterMeasures⟩ :=
      eq_of_furtherMeasured? adds spaceAdds asksRest isLater isOthers
    cases result
    exact ⟨rfl, List.forall_mem_append.mpr ⟨groupMeasures, laterMeasures⟩⟩

private theorem width_of_ofBlocks? (blocksAdd : ∀ block ∈ blocks, block.AddsUp advance) {gap : Px}
    (flowed : ofBlocks? column space gap blocks = some flow) {line : FlowLine}
    (member : line ∈ flow.lines) :
    ∀ width ∈ font.width? line.text, line.width = scaled width line.scale := by
  obtain ⟨groups, isFlat, fit⟩ := groups_of_ofBlocks? flowed
  rw [isFlat] at member
  obtain ⟨group, isGroup, inGroup⟩ := List.mem_flatten.mp member
  obtain ⟨block, isBlock, y, last, gives⟩ := exists_of_mem_answers fit isGroup
  exact width_of_shown adds spaceAdds (blocksAdd block isBlock) gives inGroup

end Pages

/-- Adding up widths is measuring texts: for every font that adds up, as cells and sums over
characters do, flowing a page gives the same lines as measuring the text of every candidate line,
where both give lines, and each line is as wide as its text. -/
theorem sums_agree_with_measuring :
    (∀ advance lineHeight, (Font.cells advance lineHeight).AddsUp fun _ => advance.val) ∧
    (∀ charWidth lineHeight,
      (Font.proportional charWidth lineHeight).AddsUp fun char => (charWidth char).val) ∧
    ∀ font advance column paragraphs flow, font.AddsUp advance →
      ofParagraphs? font column paragraphs = some flow →
      (∀ line ∈ flow.lines, ∀ width ∈ font.width? line.text,
        line.width = scaled width line.scale) ∧
      ∀ measuredFlow, ofParagraphsMeasured? font column paragraphs = some measuredFlow →
        measuredFlow = flow ∧ ∀ line ∈ flow.lines, Measures font line := by
  refine ⟨Font.addsUp_cells, Font.addsUp_proportional, ?_⟩
  intro font advance column paragraphs flow adds flowed
  obtain ⟨space, blocks, isSpace, measured, flowed⟩ := exists_measured flowed
  have spaceAdds := adds " " space isSpace
  have asked := forall₂_of_mapM_eq_some measured
  have blocksAdd : ∀ block ∈ blocks, block.AddsUp advance := by
    intro block member
    obtain ⟨paragraph, -, asksBlock⟩ := exists_of_mem_answers asked member
    exact addsUp_of_measured adds asksBlock
  refine ⟨fun line member => width_of_ofBlocks? adds spaceAdds blocksAdd flowed member, ?_⟩
  intro measuredFlow flowedMeasured
  exact eq_of_ofParagraphsMeasured? adds spaceAdds asked flowed flowedMeasured

/-- A header and a paragraph in narrow columns, in cells and under a font with a wide letter. -/
theorem sums_agree_with_measuring_narrow :
    (∃ flow, ofParagraphs? Font.standard 66 [.header 2 ["one"], .regular ["two", "three", "four"]] =
        some flow ∧
      ofParagraphsMeasured? Font.standard 66
        [.header 2 ["one"], .regular ["two", "three", "four"]] = some flow ∧
      flow.lines.map (fun line => (line.text, line.width)) =
        [("one", 32), ("two three", 54), ("four", 24)] ∧
      ∀ line ∈ flow.lines, Measures Font.standard line) ∧
    ∃ flow, ofParagraphs? (.proportional (fun char => if char = 'w' then 9 else 4) 11) 30
        [.regular ["two", "wow"]] = some flow ∧
      ofParagraphsMeasured? (.proportional (fun char => if char = 'w' then 9 else 4) 11) 30
        [.regular ["two", "wow"]] = some flow ∧
      flow.lines.map (fun line => (line.text, line.width)) = [("two", 17), ("wow", 22)] := by
  constructor
  · have counted : (ofParagraphs? Font.standard 66
        [.header 2 ["one"], .regular ["two", "three", "four"]]).map
          (fun flow => flow.lines.map fun line => (line.text, line.width)) =
        some [("one", 32), ("two three", 54), ("four", 24)] := by
      decide +kernel
    obtain ⟨flow, flowed, lines⟩ := Option.map_eq_some_iff.mp counted
    obtain ⟨measuredFlow, flowedMeasured⟩ := Option.isSome_iff_exists.mp
      (show (ofParagraphsMeasured? Font.standard 66
        [.header 2 ["one"], .regular ["two", "three", "four"]]).isSome by decide +kernel)
    obtain ⟨same, measures⟩ := (sums_agree_with_measuring.2.2 _ _ _ _ _
      (sums_agree_with_measuring.1 6 12) flowed).2 measuredFlow flowedMeasured
    exact ⟨flow, flowed, same ▸ flowedMeasured, lines, measures⟩
  · have counted : (ofParagraphs? (.proportional (fun char => if char = 'w' then 9 else 4) 11) 30
        [.regular ["two", "wow"]]).map
          (fun flow => flow.lines.map fun line => (line.text, line.width)) =
        some [("two", 17), ("wow", 22)] := by
      decide +kernel
    obtain ⟨flow, flowed, lines⟩ := Option.map_eq_some_iff.mp counted
    obtain ⟨measuredFlow, flowedMeasured⟩ := Option.isSome_iff_exists.mp
      (show (ofParagraphsMeasured? (.proportional (fun char => if char = 'w' then 9 else 4) 11) 30
        [.regular ["two", "wow"]]).isSome by decide +kernel)
    obtain ⟨same, -⟩ := (sums_agree_with_measuring.2.2 _ _ _ _ _
      (sums_agree_with_measuring.2.1 _ 11) flowed).2 measuredFlow flowedMeasured
    exact ⟨flow, flowed, same ▸ flowedMeasured, lines⟩

end Flow

end Handbook
