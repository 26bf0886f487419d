import Handbook.Proofs.Book.Moves

namespace Handbook.Book

/-- An action and what came of it. The host may measure texts differently each time. -/
structure Step where
  font : Font
  before : Book
  action : Action
  after : Book
  answer : Bool

namespace Step

/-- The book that the action finds, under the font of the moment. -/
def book (step : Step) : Book := { step.before with font := step.font }

/-- The action has this outcome. -/
def Taken (step : Step) : Prop := step.book.perform? step.action = some (step.after, step.answer)

theorem Taken.exists_move {step : Step} (taken : step.Taken) :
    ∃ move, step.book.moveOf? step.action = some (move, step.answer) ∧
      move.make? step.book = some step.after := by
  unfold Taken at taken
  rw [perform?_eq] at taken
  obtain ⟨⟨move, answer⟩, decided, carried⟩ := Option.bind_eq_some_iff.mp taken
  obtain ⟨next, made, result⟩ := Option.bind_eq_some_iff.mp carried
  obtain ⟨isAfter, isAnswer⟩ := Prod.mk.inj (Option.some.inj result)
  subst isAfter isAnswer
  exact ⟨move, decided, made⟩

theorem Taken.font_after {step : Step} (taken : step.Taken) : step.after.font = step.font := by
  obtain ⟨move, -, made⟩ := taken.exists_move
  exact (Move.agrees_change made).font.trans (move.font_change step.book)

end Step

/-- The book that some steps lead to, one after the other. -/
inductive Run (start : Book) : List Step → Book → Prop
  | nil : Run start [] start
  | concat {steps : List Step} {step : Step} (run : Run start steps step.before)
      (taken : step.Taken) : Run start (steps ++ [step]) step.after

/-- Every step of a run is taken from a book that a run leads to. -/
theorem Run.exists_of_mem {start book : Book} {steps : List Step} (run : Run start steps book)
    {step : Step} (member : step ∈ steps) :
    step.Taken ∧ ∃ earlier, Run start earlier step.before := by
  induction run with
  | nil => cases member
  | @concat steps last run taken ih =>
    rcases List.mem_append.mp member with inSteps | isLast
    · exact ih inSteps
    · rw [List.mem_singleton.mp isLast]
      exact ⟨taken, steps, run⟩

/-- What no action changes about a book. -/
structure Fixed (book other : Book) : Prop where
  settings : other.settings = book.settings
  artwork : other.artwork = book.artwork
  source : other.source = book.source
  capacity : other.bookmarks.capacity = book.bookmarks.capacity

theorem Move.fixed {move : Move} {book next : Book} (made : move.make? book = some next) :
    book.Fixed next := by
  have agrees := Move.agrees_change made
  have changed : book.Fixed (move.change book) := by
    cases move with
    | goTo path =>
      unfold Move.change turnTo
      dsimp only
      split <;> exact ⟨rfl, rfl, rfl, rfl⟩
    | _ => exact ⟨rfl, rfl, rfl, rfl⟩
  exact ⟨agrees.settings.trans changed.settings, agrees.artwork.trans changed.artwork,
    agrees.source.trans changed.source, agrees.capacity.trans changed.capacity⟩

theorem Run.fixed {start book : Book} {steps : List Step} (run : Run start steps book) :
    start.Fixed book := by
  induction run with
  | nil => exact ⟨rfl, rfl, rfl, rfl⟩
  | @concat steps step run taken ih =>
    obtain ⟨move, -, made⟩ := taken.exists_move
    have last := Move.fixed made
    exact ⟨last.settings.trans ih.settings, last.artwork.trans ih.artwork,
      last.source.trans ih.source, last.capacity.trans ih.capacity⟩

/-- The steps that some actions lead to under the font of the book. -/
def replay? (book : Book) : List Action → Option (List Step × Book)
  | [] => some ([], book)
  | action :: later => do
    let (next, answer) ← book.perform? action
    let (steps, last) ← next.replay? later
    return (⟨book.font, book, action, next, answer⟩ :: steps, last)

theorem Run.append_replay? {start book last : Book} {earlier steps : List Step}
    {actions : List Action} (run : Run start earlier book)
    (replayed : book.replay? actions = some (steps, last)) : Run start (earlier ++ steps) last := by
  induction actions generalizing book earlier steps with
  | nil =>
    obtain ⟨noSteps, same⟩ := Prod.mk.inj (Option.some.inj replayed)
    rw [← noSteps, ← same, List.append_nil]
    exact run
  | cons action later ih =>
    obtain ⟨⟨next, answer⟩, performed, rest⟩ := Option.bind_eq_some_iff.mp replayed
    obtain ⟨⟨more, final⟩, continued, result⟩ := Option.bind_eq_some_iff.mp rest
    obtain ⟨isSteps, isLast⟩ := Prod.mk.inj (Option.some.inj result)
    have taken : Step.Taken ⟨book.font, book, action, next, answer⟩ := performed
    rw [← isSteps, List.append_cons]
    subst isLast
    exact ih (.concat run taken) continued

theorem run_of_replay? {start last : Book} {steps : List Step} {actions : List Action}
    (replayed : start.replay? actions = some (steps, last)) : Run start steps last :=
  Run.append_replay? .nil replayed

private theorem font_of_replay? {start last : Book} {steps : List Step} {actions : List Action}
    (replayed : start.replay? actions = some (steps, last)) :
    ∀ step ∈ steps, step.font = start.font := by
  induction actions generalizing start steps with
  | nil =>
    obtain ⟨noSteps, -⟩ := Prod.mk.inj (Option.some.inj replayed)
    rw [← noSteps]
    intro step member
    cases member
  | cons action later ih =>
    obtain ⟨⟨next, answer⟩, performed, rest⟩ := Option.bind_eq_some_iff.mp replayed
    obtain ⟨⟨more, final⟩, continued, result⟩ := Option.bind_eq_some_iff.mp rest
    obtain ⟨isSteps, isLast⟩ := Prod.mk.inj (Option.some.inj result)
    subst isLast
    have taken : Step.Taken ⟨start.font, start, action, next, answer⟩ := performed
    intro step member
    rw [← isSteps] at member
    rcases List.mem_cons.mp member with rfl | inMore
    · rfl
    · exact (ih continued step inMore).trans taken.font_after

/-- A view of the run of some actions on a newly opened book, once evaluated, tells of that run. -/
theorem exists_run_of_view {settings : Settings} {source : String → Option Document} {font : Font}
    {screenWidth screenHeight : Px} {actions : List Action} {α : Type}
    {view : List Step × Book → α} {seen : α}
    (viewed : ((openAt settings source font screenWidth screenHeight).toOption.bind fun start =>
      (start.replay? actions).map view) = some seen) :
    ∃ start steps book,
      openAt settings source font screenWidth screenHeight = .ok start ∧
      start.replay? actions = some (steps, book) ∧ Run start steps book ∧
      (∀ step ∈ steps, step.font = font) ∧ view (steps, book) = seen := by
  obtain ⟨start, started, rest⟩ := Option.bind_eq_some_iff.mp viewed
  obtain ⟨⟨steps, book⟩, replayed, result⟩ := Option.map_eq_some_iff.mp rest
  have opened := Fault.toOption_eq_some_iff.mp started
  have sameFont := font_of_replay? replayed
  rw [font_of_openAt opened] at sameFont
  exact ⟨start, steps, book, opened, replayed, run_of_replay? replayed, sameFont, result⟩

end Handbook.Book
