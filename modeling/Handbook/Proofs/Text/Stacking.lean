import Handbook.Page.Basic
import Handbook.Proofs.Text.Headers
import Handbook.Proofs.Text.Wrapping

namespace Handbook

namespace Flow

variable {column space view : Px} {blocks : List Block} {groups : List (List FlowLine)}
  {flow : Flow} {gap : Int}

/-- The groups are the lines of the paragraphs of a page. A line starts below the rows of all lines
before it and as many gaps as paragraphs stand before its own; the page ends with the last row of
its last paragraph. -/
structure Stacked (gap : Int) (groups : List (List FlowLine)) (flow : Flow) : Prop where
  whole : flow.lines = groups.flatten
  place : ∀ before group after above line below, groups = before ++ group :: after →
    group = above ++ line :: below →
    line.y.val = rowsOf (before.flatten ++ above) + before.length * gap
  height : flow.height.val = rowsOf flow.lines + ((groups.length - 1 : Nat) : Int) * gap

/-- Lines stand one after the other within the height of the page, and a view that has room for a
line shows all of it under some scroll that the page can have. -/
structure Readable (flow : Flow) : Prop where
  apart : flow.lines.Pairwise FlowLine.EndsBefore
  inside : ∀ line ∈ flow.lines, 0 ≤ line.y.val ∧ line.y.val + line.height.val ≤ flow.height.val
  reached : ∀ page : Page, page.flow = flow → ∀ view : Px, 0 ≤ view.val →
    ∃ range, page.scrollRange? view = some range ∧
      ∀ line ∈ flow.lines, line.height.val ≤ view.val →
        ∃ offset : Int, 0 ≤ offset ∧ offset ≤ range.val ∧
          0 ≤ line.y.val - offset ∧ line.y.val - offset + line.height.val ≤ view.val

/-- Scrolling a line to the top of the view, or as far as the page scrolls, shows all of it where
the view has room for it. -/
theorem exists_scroll (page : Page) (pageNatural : 0 ≤ page.height.val)
    (viewNatural : 0 ≤ view.val) :
    ∃ range, page.scrollRange? view = some range ∧
      ∀ line : FlowLine, 0 ≤ line.y.val → line.y.val + line.height.val ≤ page.height.val →
        line.height.val ≤ view.val → ∃ offset : Int, 0 ≤ offset ∧ offset ≤ range.val ∧
          0 ≤ line.y.val - offset ∧ line.y.val - offset + line.height.val ≤ view.val := by
  have pageUpper := page.height.le_upper
  have viewUpper := view.le_upper
  obtain ⟨hidden, formed, isHidden⟩ :=
    Px.exists_fit? (page.height.val - view.val) ⟨by omega, by omega⟩
  refine ⟨max hidden 0, by rw [Page.scrollRange?, formed]; rfl, fun line starts ends fits => ?_⟩
  rw [Px.val_max, Px.val_zero, isHidden]
  exact ⟨min line.y.val (max (page.height.val - view.val) 0), by omega, by omega, by omega,
    by omega⟩

private theorem upright_of_gives (fit : List.Forall₂ (Block.Gives column space) blocks groups)
    (natural : ∀ block ∈ blocks, 0 ≤ block.lineHeight.val) : Upright groups.flatten := by
  intro line member
  obtain ⟨group, isGroup, inGroup⟩ := List.mem_flatten.mp member
  obtain ⟨block, isBlock, y, last, gives⟩ := exists_of_mem_answers fit isGroup
  obtain ⟨-, isScale, isHeight⟩ := look_of_block? gives line inGroup
  rw [isHeight, isScale]
  exact scaled_nonneg block.level (natural block isBlock)

private theorem readable_of_spaced (spaced : Spaced gap 0 groups)
    (isFlat : flow.lines = groups.flatten)
    (isHeight : flow.height.val = rowsOf flow.lines + ((groups.length - 1 : Nat) : Int) * gap)
    (upright : Upright groups.flatten) (natural : 0 ≤ gap) : flow.Readable := by
  have heightNatural : 0 ≤ flow.height.val := by
    rw [isHeight, isFlat]
    exact Int.add_nonneg (rowsOf_nonneg upright) (Int.mul_nonneg (Int.natCast_nonneg _) natural)
  have inside : ∀ line ∈ flow.lines, 0 ≤ line.y.val ∧
      line.y.val + line.height.val ≤ flow.height.val := by
    rw [isHeight, isFlat]
    intro line member
    obtain ⟨starts, ends⟩ := spaced.bounds upright natural line member
    have someGroup : 1 ≤ groups.length := by
      obtain ⟨group, isGroup, -⟩ := List.mem_flatten.mp member
      exact List.length_pos_of_mem isGroup
    rw [Int.ofNat_sub someGroup, Int.sub_mul]
    omega
  refine ⟨isFlat ▸ spaced.apart upright natural, inside, ?_⟩
  rintro page rfl view viewNatural
  obtain ⟨range, isRange, reached⟩ := exists_scroll page heightNatural viewNatural
  exact ⟨range, isRange, fun line member fits =>
    reached line (inside line member).1 (inside line member).2 fits⟩

private theorem stacked_of_ofBlocks? {gap : Px}
    (flowed : ofBlocks? column space gap blocks = some flow) :
    ∃ groups, List.Forall₂ (Block.Gives column space) blocks groups ∧ flow.Stacked gap.val groups ∧
      (0 ≤ gap.val → (∀ block ∈ blocks, 0 ≤ block.lineHeight.val) → flow.Readable) := by
  obtain ⟨groups, fit, spaced, isFlat, isHeight⟩ := spaced_of_ofBlocks? flowed
  refine ⟨groups, fit, ⟨isFlat, ?_, isHeight⟩, fun natural blocksNatural => ?_⟩
  · rintro before group after above line below rfl rfl
    rw [spaced.place, Int.zero_add]
  · exact readable_of_spaced spaced isFlat isHeight (upright_of_gives fit blocksNatural) natural

theorem stacked_of_ofParagraphs? {font : Font} {paragraphs : List Paragraph}
    (flowed : ofParagraphs? font column paragraphs = some flow) :
    ∃ space blocks groups, font.width? " " = some space ∧
      paragraphs.mapM (Block.of? font) = some blocks ∧
      List.Forall₂ (Block.Gives column space) blocks groups ∧
      flow.Stacked (font.lineHeight.val.tdiv 2) groups ∧
      (0 ≤ font.lineHeight.val → flow.Readable) := by
  obtain ⟨space, blocks, isSpace, measured, flowed⟩ := exists_measured flowed
  obtain ⟨groups, fit, stacked, readable⟩ := stacked_of_ofBlocks? flowed
  have isGap : (Flow.gap font).val = font.lineHeight.val.tdiv 2 := Px.val_quotient _ _
  rw [isGap] at stacked readable
  refine ⟨space, blocks, groups, isSpace, measured, fit, stacked, fun natural => ?_⟩
  refine readable (Int.tdiv_nonneg natural (by decide)) fun block member => ?_
  obtain ⟨paragraph, -, asked⟩ := exists_of_mem_answers (forall₂_of_mapM_eq_some measured) member
  rw [(paragraph_of_block? asked).2]
  exact natural

/-- Lines stand below one another, paragraphs a gap apart, and every line can be scrolled into a
view that has room for it. The widths of the words may have been measured in any way; a font that
measures alike leaves half a line between paragraphs. -/
theorem lines_stack_in_reach :
    (∀ column space gap blocks flow, ofBlocks? column space gap blocks = some flow →
      ∃ groups, List.Forall₂ (Block.Gives column space) blocks groups ∧
        flow.Stacked gap.val groups ∧
        (0 ≤ gap.val → (∀ block ∈ blocks, 0 ≤ block.lineHeight.val) → flow.Readable)) ∧
    ∀ font column paragraphs flow, ofParagraphs? font column paragraphs = some flow →
      ∃ space blocks groups, font.width? " " = some space ∧
        paragraphs.mapM (Block.of? font) = some blocks ∧
        List.Forall₂ (Block.Gives column space) blocks groups ∧
        flow.Stacked (font.lineHeight.val.tdiv 2) groups ∧
        (0 ≤ font.lineHeight.val → flow.Readable) :=
  ⟨fun _ _ _ _ _ => stacked_of_ofBlocks?, fun _ _ _ _ => stacked_of_ofParagraphs?⟩

/-- A header over a paragraph of two lines, and a page whose word was given another width the second
time. -/
theorem lines_stack_in_reach_twoPages :
    (∃ flow, ofParagraphs? Font.standard 66 [.header 1 ["one"], .regular ["two", "three", "four"]] =
        some flow ∧
      flow.lines.map (fun line => line.y) = [0, 30, 42] ∧ flow.height = 54 ∧ flow.Readable ∧
      ∃ space blocks groups, Font.standard.width? " " = some space ∧
        [Paragraph.header 1 ["one"], .regular ["two", "three", "four"]].mapM
          (Block.of? Font.standard) = some blocks ∧
        List.Forall₂ (Block.Gives 66 space) blocks groups ∧ flow.Stacked 6 groups) ∧
    ∃ flow, ofBlocks? 66 6 5 [⟨none, 12, [⟨"word", 24⟩]⟩, ⟨some 2, 12, [⟨"word", 41⟩]⟩] =
        some flow ∧ flow.Readable ∧
      ∃ groups, List.Forall₂ (Block.Gives 66 6)
        [⟨none, 12, [⟨"word", 24⟩]⟩, ⟨some 2, 12, [⟨"word", 41⟩]⟩] groups ∧
        flow.Stacked 5 groups := by
  constructor
  · have counted : (ofParagraphs? Font.standard 66
        [.header 1 ["one"], .regular ["two", "three", "four"]]).map
          (fun flow => (flow.lines.map (fun line => line.y), flow.height)) =
        some ([0, 30, 42], 54) := by
      decide +kernel
    obtain ⟨flow, flowed, shown⟩ := Option.map_eq_some_iff.mp counted
    obtain ⟨rows, isHeight⟩ := Prod.mk.inj shown
    obtain ⟨space, blocks, groups, isSpace, measured, fit, stacked, readable⟩ :=
      lines_stack_in_reach.2 _ _ _ _ flowed
    exact ⟨flow, flowed, rows, isHeight, readable (by decide), space, blocks, groups, isSpace,
      measured, fit, stacked⟩
  · obtain ⟨flow, flowed⟩ := Option.isSome_iff_exists.mp
      (show (ofBlocks? 66 6 5 [⟨none, 12, [⟨"word", 24⟩]⟩,
        ⟨some 2, 12, [⟨"word", 41⟩]⟩]).isSome by decide +kernel)
    obtain ⟨groups, fit, stacked, readable⟩ := lines_stack_in_reach.1 _ _ _ _ _ flowed
    exact ⟨flow, flowed, readable (by decide) (by decide), groups, fit, stacked⟩

end Flow

end Handbook
