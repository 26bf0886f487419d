import Mathlib.Data.List.Forall2
import Handbook.Text.Flow

namespace Handbook

/-- The line ends above another one, or where it starts. -/
def FlowLine.EndsBefore (line later : FlowLine) : Prop :=
  line.y.val + line.height.val ≤ later.y.val

namespace Flow

variable {column space y last height : Px} {scale : Binary32} {level : Option Nat}
  {filled : List Measured} {line : FlowLine} {lines above below : List FlowLine} {block : Block}
  {blocks : List Block} {groups before after : List (List FlowLine)} {flow : Flow} {gap top : Int}

/-- The rows that lines take, the gaps between paragraphs left out. -/
def rowsOf : List FlowLine → Int
  | [] => 0
  | line :: rest => line.height.val + rowsOf rest

/-- No line has a negative height. -/
def Upright (lines : List FlowLine) : Prop := ∀ line ∈ lines, 0 ≤ line.height.val

@[simp]
theorem rowsOf_append (first second : List FlowLine) :
    rowsOf (first ++ second) = rowsOf first + rowsOf second := by
  induction first with
  | nil => simp [rowsOf]
  | cons line rest ih =>
    rw [List.cons_append, rowsOf, rowsOf, ih]
    omega

theorem rowsOf_const (same : ∀ line ∈ lines, line.height = height) :
    rowsOf lines = lines.length * height.val := by
  induction lines with
  | nil => simp [rowsOf]
  | cons line rest ih =>
    obtain ⟨isHeight, sameRest⟩ := List.forall_mem_cons.mp same
    rw [rowsOf, ih sameRest, isHeight, List.length_cons, Int.natCast_add, Int.add_mul]
    omega

theorem rowsOf_nonneg (upright : Upright lines) : 0 ≤ rowsOf lines := by
  induction lines with
  | nil => exact Int.le_refl 0
  | cons line rest ih =>
    obtain ⟨natural, uprightRest⟩ := List.forall_mem_cons.mp upright
    exact Int.add_nonneg natural (ih uprightRest)

/-- The first line starts at `top` and every other one where the line above it ends. -/
def Stack (top : Int) : List FlowLine → Prop
  | [] => True
  | line :: rest => line.y.val = top ∧ Stack (top + line.height.val) rest

/-- The lines of each paragraph are stacked, from `top` down and one gap below those before. -/
def Spaced (gap top : Int) : List (List FlowLine) → Prop
  | [] => True
  | group :: later => Stack top group ∧ Spaced gap (top + rowsOf group + gap) later

theorem Stack.place (stack : Stack top (above ++ line :: below)) :
    line.y.val = top + rowsOf above := by
  induction above generalizing top with
  | nil => simpa [rowsOf] using stack.1
  | cons first rest ih =>
    rw [ih stack.2, rowsOf]
    omega

theorem Spaced.place (spaced : Spaced gap top (before ++ (above ++ line :: below) :: after)) :
    line.y.val = top + rowsOf (before.flatten ++ above) + before.length * gap := by
  induction before generalizing top with
  | nil => simpa using spaced.1.place
  | cons group rest ih =>
    rw [ih spaced.2, List.flatten_cons, List.append_assoc, rowsOf_append group, List.length_cons,
      Int.natCast_add, Int.add_mul]
    omega

theorem Stack.bounds (stack : Stack top lines) (upright : Upright lines) :
    ∀ line ∈ lines, top ≤ line.y.val ∧ line.y.val + line.height.val ≤ top + rowsOf lines := by
  intro line member
  obtain ⟨above, below, rfl⟩ := List.append_of_mem member
  obtain ⟨uprightAbove, uprightFrom⟩ := List.forall_mem_append.mp upright
  have rowsAbove := rowsOf_nonneg uprightAbove
  have rowsBelow := rowsOf_nonneg (List.forall_mem_cons.mp uprightFrom).2
  rw [stack.place, rowsOf_append, rowsOf]
  omega

theorem Stack.apart (stack : Stack top lines) (upright : Upright lines) :
    lines.Pairwise FlowLine.EndsBefore := by
  induction lines generalizing top with
  | nil => exact .nil
  | cons line rest ih =>
    obtain ⟨isTop, stackRest⟩ := stack
    have uprightRest := (List.forall_mem_cons.mp upright).2
    refine .cons (fun later member => ?_) (ih stackRest uprightRest)
    have := (stackRest.bounds uprightRest later member).1
    show _ ≤ _
    omega

/-- With gaps that are not negative, paragraphs stay below `top`, and their last line ends a gap
above the place of the paragraph that would follow. -/
theorem Spaced.bounds (spaced : Spaced gap top groups) (upright : Upright groups.flatten)
    (natural : 0 ≤ gap) : ∀ line ∈ groups.flatten, top ≤ line.y.val ∧
      line.y.val + line.height.val + gap ≤
        top + rowsOf groups.flatten + groups.length * gap := by
  induction groups generalizing top with
  | nil => exact List.forall_mem_nil _
  | cons group later ih =>
    obtain ⟨stack, spacedLater⟩ := spaced
    rw [List.flatten_cons] at upright ⊢
    obtain ⟨uprightGroup, uprightLater⟩ := List.forall_mem_append.mp upright
    have rowsGroup := rowsOf_nonneg uprightGroup
    have rowsLater := rowsOf_nonneg uprightLater
    have gapsLater : 0 ≤ (later.length : Int) * gap := Int.mul_nonneg (by omega) natural
    rw [rowsOf_append, List.length_cons, Int.natCast_add, Int.add_mul]
    refine List.forall_mem_append.mpr ⟨fun line inGroup => ?_, fun line inLater => ?_⟩
    · have := stack.bounds uprightGroup line inGroup
      omega
    · have := ih spacedLater uprightLater line inLater
      omega

theorem Spaced.apart (spaced : Spaced gap top groups) (upright : Upright groups.flatten)
    (natural : 0 ≤ gap) : groups.flatten.Pairwise FlowLine.EndsBefore := by
  induction groups generalizing top with
  | nil => exact .nil
  | cons group later ih =>
    obtain ⟨stack, spacedLater⟩ := spaced
    rw [List.flatten_cons] at upright ⊢
    obtain ⟨uprightGroup, uprightLater⟩ := List.forall_mem_append.mp upright
    refine List.pairwise_append.mpr ⟨stack.apart uprightGroup, ih spacedLater uprightLater, ?_⟩
    intro line inGroup other inLater
    have ends := (stack.bounds uprightGroup line inGroup).2
    have starts := (spacedLater.bounds uprightLater natural other inLater).1
    show _ ≤ _
    omega

private theorem stack_of_stack?
    (stacked : stack? height scale level y filled = some (lines, last)) :
    Stack y.val lines ∧ last.val = y.val + rowsOf lines := by
  induction filled generalizing y lines with
  | nil =>
    cases stacked
    exact ⟨trivial, by simp [rowsOf]⟩
  | cons first rest ih =>
    obtain ⟨next, isNext, stacked⟩ := Option.bind_eq_some_iff.mp stacked
    obtain ⟨⟨later, final⟩, stacksLater, result⟩ := Option.bind_eq_some_iff.mp stacked
    cases result
    obtain ⟨stack, isLast⟩ := ih stacksLater
    rw [Px.fit?_eq_some_iff.mp isNext] at stack isLast
    exact ⟨⟨rfl, stack⟩, by rw [isLast, rowsOf, Int.add_assoc]⟩

theorem stack_of_block? (flowed : block? column space y block = some (lines, last)) :
    Stack y.val lines ∧ last.val = y.val + rowsOf lines := by
  obtain ⟨filled, -, stacked⟩ := Option.bind_eq_some_iff.mp flowed
  exact stack_of_stack? stacked

/-- The lines are those of a paragraph from some row down. -/
def Block.Gives (column space : Px) (block : Block) (lines : List FlowLine) : Prop :=
  ∃ y last, block? column space y block = some (lines, last)

private theorem spaced_of_further? {gap : Px}
    (flowed : further? column space gap y blocks = some (lines, last)) :
    ∃ groups, lines = groups.flatten ∧ List.Forall₂ (Block.Gives column space) blocks groups ∧
      Spaced gap (y.val + gap.val) groups ∧
      last.val = y.val + rowsOf lines + groups.length * gap.val := by
  induction blocks generalizing y lines with
  | nil =>
    cases flowed
    exact ⟨[], rfl, .nil, trivial, by simp [rowsOf]⟩
  | cons block rest ih =>
    obtain ⟨start, isStart, flowed⟩ := Option.bind_eq_some_iff.mp flowed
    obtain ⟨⟨group, next⟩, isGroup, flowed⟩ := Option.bind_eq_some_iff.mp flowed
    obtain ⟨⟨later, final⟩, isLater, result⟩ := Option.bind_eq_some_iff.mp flowed
    cases result
    obtain ⟨groups, rfl, fit, spaced, isLast⟩ := ih isLater
    obtain ⟨stack, isNext⟩ := stack_of_block? isGroup
    rw [Px.fit?_eq_some_iff.mp isStart] at stack isNext
    rw [isNext] at spaced isLast
    refine ⟨group :: groups, rfl, .cons ⟨_, _, isGroup⟩ fit, ⟨stack, spaced⟩, ?_⟩
    rw [isLast, rowsOf_append, List.length_cons, Int.natCast_add, Int.add_mul]
    omega

theorem spaced_of_ofBlocks? {gap : Px} (flowed : ofBlocks? column space gap blocks = some flow) :
    ∃ groups, List.Forall₂ (Block.Gives column space) blocks groups ∧ Spaced gap 0 groups ∧
      flow.lines = groups.flatten ∧
      flow.height.val = rowsOf flow.lines + ((groups.length - 1 : Nat) : Int) * gap := by
  cases blocks with
  | nil =>
    cases flowed
    exact ⟨[], .nil, trivial, rfl, by simp [rowsOf]⟩
  | cons block rest =>
    obtain ⟨⟨group, next⟩, isGroup, flowed⟩ := Option.bind_eq_some_iff.mp flowed
    obtain ⟨⟨later, final⟩, isLater, result⟩ := Option.bind_eq_some_iff.mp flowed
    cases result
    obtain ⟨groups, rfl, fit, spaced, isLast⟩ := spaced_of_further? isLater
    obtain ⟨stack, isNext⟩ := stack_of_block? isGroup
    rw [isNext] at spaced isLast
    refine ⟨group :: groups, .cons ⟨_, _, isGroup⟩ fit, ⟨stack, spaced⟩, rfl, ?_⟩
    rw [isLast, rowsOf_append, List.length_cons, Nat.add_sub_cancel, Px.val_zero, Int.zero_add]

end Flow

end Handbook
