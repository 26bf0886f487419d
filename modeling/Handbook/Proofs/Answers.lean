import Mathlib.Data.List.Forall2

namespace Handbook

variable {α β : Type} {ask : α → Option β}

/-- When every element has an answer in a relation to it, so has the list. -/
theorem exists_mapM_eq_some {related : α → β → Prop} {elements : List α}
    (every : ∀ element ∈ elements, ∃ answer, ask element = some answer ∧ related element answer) :
    ∃ answers, elements.mapM ask = some answers ∧ List.Forall₂ related elements answers := by
  induction elements with
  | nil => exact ⟨[], rfl, .nil⟩
  | cons element rest ih =>
    obtain ⟨answer, asked, fits⟩ := every element (List.mem_cons_self ..)
    obtain ⟨answers, found, fit⟩ := ih fun later member => every later (List.mem_cons_of_mem _ member)
    refine ⟨answer :: answers, ?_, .cons fits fit⟩
    simp [List.mapM_cons, asked, found]

theorem forall₂_of_mapM_eq_some {elements : List α} {answers : List β}
    (asked : elements.mapM ask = some answers) :
    List.Forall₂ (fun element answer => ask element = some answer) elements answers := by
  induction elements generalizing answers with
  | nil =>
    cases asked
    exact .nil
  | cons element rest ih =>
    rw [List.mapM_cons] at asked
    obtain ⟨answer, found, asked⟩ := Option.bind_eq_some_iff.mp asked
    obtain ⟨others, foundRest, result⟩ := Option.bind_eq_some_iff.mp asked
    cases result
    exact .cons found (ih foundRest)

theorem exists_of_mem_answers {related : α → β → Prop} {elements : List α} {answers : List β}
    (fit : List.Forall₂ related elements answers) {answer : β} (member : answer ∈ answers) :
    ∃ element ∈ elements, related element answer := by
  induction fit with
  | nil => cases member
  | cons fits _ ih =>
    rcases List.mem_cons.mp member with rfl | later
    · exact ⟨_, List.mem_cons_self .., fits⟩
    · obtain ⟨element, inRest, known⟩ := ih later
      exact ⟨element, List.mem_cons_of_mem _ inRest, known⟩

/-- An answer stands at the index of the element that it answers. -/
theorem exists_getElem?_of_answers {related : α → β → Prop} {elements : List α} {answers : List β}
    (fit : List.Forall₂ related elements answers) {index : Nat} {answer : β}
    (found : answers[index]? = some answer) :
    ∃ element, elements[index]? = some element ∧ related element answer := by
  induction fit generalizing index with
  | nil => cases found
  | cons fits _ ih =>
    cases index with
    | zero =>
      cases found
      exact ⟨_, rfl, fits⟩
    | succ index => exact ih found

theorem exists_answer_of_mem {related : α → β → Prop} {elements : List α} {answers : List β}
    (fit : List.Forall₂ related elements answers) {element : α} (member : element ∈ elements) :
    ∃ answer ∈ answers, related element answer := by
  have turned : List.Forall₂ (flip related) answers elements := fit.flip
  exact exists_of_mem_answers turned member

/-- What is read off the answers is read off the elements when each answer tells it of its element. -/
theorem map_answers {Told : Type} {related : α → β → Prop} {elements : List α} {answers : List β}
    (fit : List.Forall₂ related elements answers) {read : β → Told} {tell : α → Told}
    (same : ∀ element ∈ elements, ∀ answer, related element answer → read answer = tell element) :
    answers.map read = elements.map tell := by
  induction fit with
  | nil => rfl
  | cons fits _ ih =>
    rw [List.map_cons, List.map_cons, same _ (List.mem_cons_self ..) _ fits,
      ih fun element member => same element (List.mem_cons_of_mem _ member)]

/-- Where exactly the elements that a test keeps have something picked from their answers, what is
picked answers the elements that are kept, in their order. -/
theorem forall₂_filter_filterMap {Picked : Type} {related : α → Picked → Prop} {keeps : α → Prop}
    [DecidablePred keeps] {pick : β → Option Picked} {elements : List α} {answers : List β}
    (fit : List.Forall₂ (fun element answer =>
      (keeps element ∧ ∃ picked, pick answer = some picked ∧ related element picked) ∨
        (¬ keeps element ∧ pick answer = none)) elements answers) :
    List.Forall₂ related (elements.filter fun element => decide (keeps element))
      (answers.filterMap pick) := by
  induction fit with
  | nil => exact .nil
  | cons told _ ih =>
    rcases told with ⟨kept, picked, isPicked, fits⟩ | ⟨dropped, isNone⟩
    · rw [List.filter_cons_of_pos (by simpa using kept), List.filterMap_cons_some isPicked]
      exact .cons fits ih
    · rw [List.filter_cons_of_neg (by simpa using dropped), List.filterMap_cons_none isNone]
      exact ih

theorem getLastD_filterMap_concat (ask : α → Option β) (elements : List α) (element : α)
    (initial : β) :
    ((elements ++ [element]).filterMap ask).getLastD initial =
      (ask element).getD ((elements.filterMap ask).getLastD initial) := by
  rw [List.filterMap_append]
  cases asked : ask element <;> simp [asked]

theorem pairwise_answers {related : α → β → Prop} {before : α → α → Prop} {precedes : β → β → Prop}
    {elements : List α} {answers : List β} (fit : List.Forall₂ related elements answers)
    (ordered : elements.Pairwise before)
    (carry : ∀ {first second firstAnswer secondAnswer}, before first second →
      related first firstAnswer → related second secondAnswer → precedes firstAnswer secondAnswer) :
    answers.Pairwise precedes := by
  induction fit with
  | nil => exact .nil
  | cons fits later ih =>
    obtain ⟨first, rest⟩ := List.pairwise_cons.mp ordered
    refine .cons (fun answer member => ?_) (ih rest)
    obtain ⟨element, inRest, known⟩ := exists_of_mem_answers later member
    exact carry (first element inRest) fits known

/-- An element that passes a test is the only one when the order of the list keeps two from passing. -/
theorem countP_eq_one_of_pairwise {test : α → Prop} [DecidablePred test] {before : α → α → Prop}
    {elements : List α} (ordered : elements.Pairwise before)
    (some : ∃ element ∈ elements, test element)
    (apart : ∀ first second, before first second → ¬ (test first ∧ test second)) :
    elements.countP (fun element => decide (test element)) = 1 := by
  induction elements with
  | nil =>
    obtain ⟨_, member, _⟩ := some
    cases member
  | cons element rest ih =>
    obtain ⟨first, later⟩ := List.pairwise_cons.mp ordered
    by_cases passes : test element
    · have none : rest.countP (fun element => decide (test element)) = 0 := by
        apply List.countP_eq_zero.mpr
        intro other member
        have := apart element other (first other member)
        simp only [decide_eq_true_eq]
        exact fun also => this ⟨passes, also⟩
      simp [passes, none]
    · obtain ⟨other, member, alsoPasses⟩ := some
      have inRest : other ∈ rest := by
        rcases List.mem_cons.mp member with rfl | inRest
        · exact absurd alsoPasses passes
        · exact inRest
      simpa [List.countP_cons, passes] using ih later ⟨other, inRest, alsoPasses⟩

/-- When a test answers about every element and no two pass, a search finds the one that passes,
wherever it stands. -/
theorem findM?_eq_some_iff {test : α → Option Bool} {elements : List α}
    (answered : ∀ element ∈ elements, (test element).isSome)
    (alone : ∀ first ∈ elements, ∀ second ∈ elements,
      test first = some true → test second = some true → first = second) {found : α} :
    elements.findM? test = some (some found) ↔ found ∈ elements ∧ test found = some true := by
  induction elements with
  | nil => simp [List.findM?]
  | cons element rest ih =>
    have answeredRest : ∀ later ∈ rest, (test later).isSome :=
      fun later member => answered later (List.mem_cons_of_mem _ member)
    have aloneRest : ∀ first ∈ rest, ∀ second ∈ rest,
        test first = some true → test second = some true → first = second :=
      fun first inRest second alsoInRest =>
        alone first (List.mem_cons_of_mem _ inRest) second (List.mem_cons_of_mem _ alsoInRest)
    obtain ⟨passes, isAnswer⟩ := Option.isSome_iff_exists.mp (answered element (List.mem_cons_self ..))
    cases passes with
    | true =>
      have search : (element :: rest).findM? test = some (some element) := by
        simp [List.findM?, isAnswer]
      rw [search]
      constructor
      · intro same
        cases same
        exact ⟨List.mem_cons_self .., isAnswer⟩
      · rintro ⟨member, alsoPasses⟩
        rw [alone element (List.mem_cons_self ..) found member isAnswer alsoPasses]
    | false =>
      have search : (element :: rest).findM? test = rest.findM? test := by
        simp [List.findM?, isAnswer]
      rw [search, ih answeredRest aloneRest]
      constructor
      · rintro ⟨member, passes⟩
        exact ⟨List.mem_cons_of_mem _ member, passes⟩
      · rintro ⟨member, passes⟩
        rcases List.mem_cons.mp member with rfl | inRest
        · cases isAnswer.symm.trans passes
        · exact ⟨inRest, passes⟩

end Handbook
