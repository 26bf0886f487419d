import Mathlib.Tactic.SplitIfs
import Handbook.Proofs.Book.Runs

namespace Handbook.Book

namespace Move

def screen? : Move → Option (Px × Px)
  | .resize screenWidth screenHeight => some (screenWidth, screenHeight)
  | _ => none

/-- The progress that a move asks of the open page. -/
def scroll? : Move → Option Binary32
  | .scroll progress => some progress
  | _ => none

/-- The direction in which a move changes the dye of the open page. -/
def dye? : Move → Option Bool
  | .dye backwards => some backwards
  | _ => none

end Move

def Action.screen? : Action → Option (Px × Px)
  | .resize screenWidth screenHeight => some (screenWidth, screenHeight)
  | _ => none

/-- The progress that dragging the thumb to a row asks for, when the slider works. -/
def dragged? (book : Book) (y : Px) : Option Binary32 :=
  if book.sliderEnabled then
    Slider.progress? book.viewport.rail book.settings.sliderHeight y
  else none

/-- The progress that an action asks for: outright, by dragging the thumb, or by a left click on the
slider. -/
def asked? (book : Book) : Action → Option Binary32
  | .setProgress progress => some progress
  | .drag y => book.dragged? y
  | .click x y .left _ => if book.hit? x y = some (some .slider) then book.dragged? y else none
  | _ => none

/-- The tab that an action clicks with the right button, and the keys held meanwhile. -/
def rightClicked? (book : Book) : Action → Option (Tab × HeldKeys)
  | .clickTab index .right keys => (book.bookmarks.get? index).map fun tab => (tab, keys)
  | .click x y .right keys =>
    match book.hit? x y with
    | some (some (.tab index)) => (book.bookmarks.get? index).map fun tab => (tab, keys)
    | _ => none
  | _ => none

/-- The page whose dye an action with this answer changes, and the direction: a right click on a tab
that has an effect and does not hold both keys. -/
def dyed? (book : Book) (action : Action) (answer : Bool) : Option (String × Bool) :=
  match book.rightClicked? action with
  | some (tab, keys) =>
    if answer && !(keys.control && keys.shift) then some (tab.page, keys.shift) else none
  | none => none

/-- What was decided resizes, scrolls and dyes as the action tells. -/
structure Fits (book : Book) (action : Action) (decided : Move × Bool) : Prop where
  screen : decided.1.screen? = action.screen?
  scroll : decided.1.scroll? = book.asked? action
  dye : (decided.1.dye?.map fun backwards => (book.active.path, backwards)) =
    book.dyed? action decided.2

variable {book : Book} {decided : Move × Bool}

private theorem fits_addBookmark (path : String) :
    book.Fits (.addBookmark path) (book.markMove path) := by
  unfold markMove
  split_ifs <;> exact ⟨rfl, rfl, rfl⟩

private theorem fits_removeBookmark (path : String) :
    book.Fits (.removeBookmark path) (book.unmarkMove path) := by
  unfold unmarkMove
  split_ifs <;> exact ⟨rfl, rfl, rfl⟩

private theorem dye?_unmarkMove (path : String) : (book.unmarkMove path).1.dye? = none := by
  unfold unmarkMove
  split_ifs <;> rfl

/-- A right click has an effect on the tab of the open page only. -/
theorem fits_clickTab (index : Nat) (button : MouseButton) (keys : HeldKeys) :
    book.Fits (.clickTab index button keys) (book.tabMove index button keys) := by
  unfold tabMove
  cases found : book.bookmarks.get? index with
  | none => cases button <;> exact ⟨rfl, rfl, by simp [dyed?, rightClicked?, found, Move.dye?]⟩
  | some tab =>
    have clicked : book.rightClicked? (.clickTab index .right keys) = some (tab, keys) := by
      simp [rightClicked?, found]
    dsimp only
    split_ifs with isOpen isRight bothKeys isLeft
    · subst isRight
      have removal := book.fits_removeBookmark tab.page
      refine ⟨removal.screen, removal.scroll, ?_⟩
      simp [dyed?, clicked, bothKeys, dye?_unmarkMove]
    · subst isRight
      refine ⟨rfl, rfl, ?_⟩
      simp [dyed?, clicked, bothKeys, isOpen, Move.dye?]
    · refine ⟨rfl, rfl, ?_⟩
      cases button
      · rfl
      · exact absurd rfl isRight
      · rfl
    · subst isLeft
      exact ⟨rfl, rfl, rfl⟩
    · refine ⟨rfl, rfl, ?_⟩
      cases button
      · exact absurd rfl isLeft
      · simp [dyed?, clicked, Move.dye?]
      · rfl

private theorem fits_drag {y : Px} (chosen : book.dragMove? y = some decided) :
    book.Fits (.drag y) decided := by
  unfold dragMove? at chosen
  split_ifs at chosen with enabled
  · obtain ⟨progress, formed, result⟩ := Option.bind_eq_some_iff.mp chosen
    rw [← Option.some.inj result]
    refine ⟨rfl, ?_, rfl⟩
    simp [asked?, dragged?, enabled, formed, Move.scroll?]
  · rw [← Option.some.inj chosen]
    refine ⟨rfl, ?_, rfl⟩
    simp [asked?, dragged?, enabled, Move.scroll?]

private theorem fits_click {x y : Px} {button : MouseButton} {keys : HeldKeys} {hit : Option Widget}
    (under : book.hit? x y = some hit) (chosen : book.widgetMove? y button keys hit = some decided) :
    book.Fits (.click x y button keys) decided := by
  have notAsked (notSlider : hit ≠ some .slider) : book.asked? (.click x y button keys) = none := by
    cases button <;> simp [asked?, under, notSlider]
  have notDyed (notTab : ∀ index, hit ≠ some (.tab index)) (answer : Bool) :
      book.dyed? (.click x y button keys) answer = none := by
    cases button <;> simp [dyed?, rightClicked?, under, notTab]
  unfold widgetMove? at chosen
  split at chosen
  · rw [← Option.some.inj chosen]
    exact ⟨rfl, (notAsked nofun).symm, (notDyed nofun _).symm⟩
  · next index =>
    rw [← Option.some.inj chosen]
    have onTab := book.fits_clickTab index button keys
    refine ⟨onTab.screen, onTab.scroll.trans ?_, onTab.dye.trans ?_⟩
    · rw [notAsked nofun]
      rfl
    · cases button <;> simp [dyed?, rightClicked?, under]
  · rw [← Option.some.inj chosen]
    split_ifs <;> exact ⟨rfl, (notAsked nofun).symm, (notDyed nofun _).symm⟩
  · rw [← Option.some.inj chosen]
    split_ifs
    · have marking := book.fits_addBookmark book.active.path
      exact ⟨marking.screen, marking.scroll.trans (notAsked nofun).symm,
        marking.dye.trans (notDyed nofun _).symm⟩
    · exact ⟨rfl, (notAsked nofun).symm, (notDyed nofun _).symm⟩
  · split_ifs at chosen with isLeft
    · subst isLeft
      have dragging := fits_drag chosen
      refine ⟨dragging.screen, dragging.scroll.trans ?_, dragging.dye.trans (notDyed nofun _).symm⟩
      simp [asked?, under]
    · rw [← Option.some.inj chosen]
      refine ⟨rfl, ?_, (notDyed nofun _).symm⟩
      cases button
      · exact absurd rfl isLeft
      all_goals rfl

theorem fits_of_moveOf? {action : Action} (chosen : book.moveOf? action = some decided) :
    book.Fits action decided := by
  cases action with
  | setPage path => rw [← Option.some.inj chosen]; exact ⟨rfl, rfl, rfl⟩
  | setProgress progress => rw [← Option.some.inj chosen]; exact ⟨rfl, rfl, rfl⟩
  | resize screenWidth screenHeight => rw [← Option.some.inj chosen]; exact ⟨rfl, rfl, rfl⟩
  | addBookmark path => rw [← Option.some.inj chosen]; exact fits_addBookmark path
  | removeBookmark path => rw [← Option.some.inj chosen]; exact fits_removeBookmark path
  | clickTab index button keys =>
    rw [← Option.some.inj chosen]; exact fits_clickTab index button keys
  | click x y button keys =>
    obtain ⟨hit, under, chosen⟩ := Option.bind_eq_some_iff.mp chosen
    exact fits_click under chosen
  | drag y => exact fits_drag chosen
  | render x y tick =>
    obtain ⟨drawn, -, result⟩ := Option.bind_eq_some_iff.mp chosen
    rw [← Option.some.inj result]
    exact ⟨rfl, rfl, rfl⟩

end Handbook.Book
