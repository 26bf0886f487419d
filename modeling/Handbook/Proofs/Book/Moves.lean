import Handbook.Book.Render
import Handbook.Proofs.Book.Operations

namespace Handbook.Book

/-- What the host of an open book can ask of it. -/
inductive Action where
  | setPage (path : String)
  | setProgress (progress : Binary32)
  | resize (screenWidth screenHeight : Px)
  | addBookmark (path : String)
  | removeBookmark (path : String)
  | clickTab (index : Nat) (button : MouseButton) (keys : HeldKeys)
  | click (x y : Px) (button : MouseButton) (keys : HeldKeys)
  | drag (y : Px)
  /-- The part of a tick that has passed does not enter the draw list. -/
  | render (x y : Px) (partialTick : Binary32)
deriving DecidableEq

/-- The book after an action, and its answer. An action that has no answer of its own tells yes. -/
def perform? (book : Book) : Action → Option (Book × Bool)
  | .setPage path => do return (← book.setPage? path, true)
  | .setProgress progress => do return (← book.setProgress? progress, true)
  | .resize screenWidth screenHeight => do
    return (← book.resize? screenWidth screenHeight, true)
  | .addBookmark path => book.addBookmark? path
  | .removeBookmark path => book.removeBookmark? path
  | .clickTab index button keys => book.clickTab? index button keys
  | .click x y button keys => book.click? x y button keys
  | .drag y => book.drag? y
  | .render x y _ => do
    let (_, next) ← book.render? x y
    return (next, true)

/-- The book with the page of a path open: the page is taken from the shelf or loaded, and the page
that was open goes onto the shelf. -/
def turnTo (book : Book) (path : String) : Book :=
  if book.active.path = path then book
  else
    { book with
      active := (book.shelf.find? path).getD (load book.source path)
      shelf := (book.shelf.without path).put book.active.path book.active }

theorem setPage?_eq (book : Book) (path : String) :
    book.setPage? path = (book.turnTo path).refresh? := by
  unfold setPage? turnTo
  split <;> rfl

@[simp]
theorem settings_turnTo (book : Book) (path : String) :
    (book.turnTo path).settings = book.settings := by
  unfold turnTo
  split <;> rfl

@[simp]
theorem source_turnTo (book : Book) (path : String) :
    (book.turnTo path).source = book.source := by
  unfold turnTo
  split <;> rfl

@[simp]
theorem font_turnTo (book : Book) (path : String) : (book.turnTo path).font = book.font := by
  unfold turnTo
  split <;> rfl

@[simp]
theorem bookmarks_turnTo (book : Book) (path : String) :
    (book.turnTo path).bookmarks = book.bookmarks := by
  unfold turnTo
  split <;> rfl

/-- The shelf once a path is bookmarked: a page that was not visited is loaded. -/
def shelfWith (book : Book) (path : String) : Shelf :=
  if (book.page? path).isSome then book.shelf else book.shelf.put path (load book.source path)

/-- What an action comes down to. -/
inductive Move where
  | stay
  | refresh
  | goTo (path : String)
  | scroll (progress : Binary32)
  | resize (screenWidth screenHeight : Px)
  | mark (path : String)
  | unmark (path : String)
  | dye (backwards : Bool)
deriving DecidableEq

namespace Move

/-- The book after a move; a tab can only be added where there is room, and removed where it is. -/
def make? (move : Move) (book : Book) : Option Book :=
  match move with
  | .stay => some book
  | .refresh => book.refresh?
  | .goTo path => book.setPage? path
  | .scroll progress => book.setProgress? progress
  | .resize screenWidth screenHeight => book.resize? screenWidth screenHeight
  | .mark path => do
    let longer ← book.bookmarks.add? path
    placeTabs? { book with bookmarks := longer, shelf := book.shelfWith path }
  | .unmark path => do
    let (_, shorter) ← book.bookmarks.remove? path
    placeTabs? { book with bookmarks := shorter }
  | .dye backwards => some { book with active := book.active.cycleDye backwards }

def change (move : Move) (book : Book) : Book :=
  match move with
  | .stay | .refresh | .resize _ _ => book
  | .goTo path => book.turnTo path
  | .scroll progress => { book with active := book.active.setProgress progress }
  | .mark path =>
    { book with bookmarks := book.bookmarks.append path, shelf := book.shelfWith path }
  | .unmark path => { book with bookmarks := book.bookmarks.erase path }
  | .dye backwards => { book with active := book.active.cycleDye backwards }

theorem settings_change (move : Move) (book : Book) :
    (move.change book).settings = book.settings := by
  cases move with
  | goTo path => exact book.settings_turnTo path
  | _ => rfl

theorem font_change (move : Move) (book : Book) : (move.change book).font = book.font := by
  cases move with
  | goTo path => exact book.font_turnTo path
  | _ => rfl

theorem source_change (move : Move) (book : Book) : (move.change book).source = book.source := by
  cases move with
  | goTo path => exact book.source_turnTo path
  | _ => rfl

theorem agrees_change {move : Move} {book next : Book} (made : move.make? book = some next) :
    (move.change book).Agrees next := by
  cases move with
  | stay =>
    rw [← Option.some.inj made]
    exact Agrees.refl book
  | refresh => exact agrees_refresh? made
  | goTo path =>
    rw [make?, setPage?_eq] at made
    exact agrees_refresh? made
  | scroll progress => exact agrees_refresh? made
  | resize screenWidth screenHeight => exact agrees_resize? made
  | mark path =>
    obtain ⟨longer, added, placed⟩ := Option.bind_eq_some_iff.mp made
    rw [Bookmarks.eq_append_of_add? added] at placed
    exact agrees_placeTabs? placed
  | unmark path =>
    obtain ⟨⟨index, shorter⟩, removed, placed⟩ := Option.bind_eq_some_iff.mp made
    rw [Bookmarks.eq_erase_of_remove? removed] at placed
    exact agrees_placeTabs? placed
  | dye backwards =>
    rw [← Option.some.inj made]
    exact Agrees.refl _

/-- After a move the open page is as the change leaves it, or that page refreshed. -/
theorem active_of_make? {move : Move} {book next : Book} (made : move.make? book = some next) :
    next.active = (move.change book).active ∨ ∃ visible,
      (move.change book).active.refresh? book.font visible = some next.active := by
  cases move with
  | stay =>
    cases made
    exact .inl rfl
  | refresh => exact .inr ⟨_, active_of_refresh? made⟩
  | goTo path =>
    rw [make?, setPage?_eq] at made
    have found := active_of_refresh? made
    rw [font_turnTo] at found
    exact .inr ⟨_, found⟩
  | scroll progress => exact .inr ⟨_, active_of_refresh? made⟩
  | resize screenWidth screenHeight =>
    obtain ⟨viewport, -, made⟩ := Option.bind_eq_some_iff.mp made
    obtain ⟨placed, laid, made⟩ := Option.bind_eq_some_iff.mp made
    obtain ⟨bookmarks, -, rfl⟩ := exists_of_placeTabs? laid
    have found := active_of_refresh? made
    exact .inr ⟨_, found⟩
  | mark path =>
    obtain ⟨longer, -, laid⟩ := Option.bind_eq_some_iff.mp made
    obtain ⟨bookmarks, -, rfl⟩ := exists_of_placeTabs? laid
    exact .inl rfl
  | unmark path =>
    obtain ⟨shorter, -, laid⟩ := Option.bind_eq_some_iff.mp made
    obtain ⟨bookmarks, -, rfl⟩ := exists_of_placeTabs? laid
    exact .inl rfl
  | dye backwards =>
    cases made
    exact .inl rfl

end Move

/-- What bookmarking a path comes down to, and the answer. -/
def markMove (book : Book) (path : String) : Move × Bool :=
  if (book.bookmarks.add? path).isSome then (.mark path, true) else (.stay, false)

def unmarkMove (book : Book) (path : String) : Move × Bool :=
  if (book.bookmarks.remove? path).isSome then (.unmark path, true) else (.stay, false)

def tabMove (book : Book) (index : Nat) (button : MouseButton) (keys : HeldKeys) : Move × Bool :=
  match book.bookmarks.get? index with
  | none => (.stay, false)
  | some tab =>
    if book.active.path = tab.page then
      if button = .right then
        if keys.control && keys.shift then book.unmarkMove tab.page else (.dye keys.shift, true)
      else (.stay, false)
    else if button = .left then (.goTo tab.page, true)
    else (.stay, false)

/-- What moving the thumb to the cursor comes down to, and the answer. -/
def dragMove? (book : Book) (y : Px) : Option (Move × Bool) :=
  if book.sliderEnabled then do
    let progress ← Slider.progress? book.viewport.rail book.settings.sliderHeight y
    return (.scroll progress, true)
  else some (.stay, false)

/-- What a click on a part of the book comes down to, and the answer. -/
def widgetMove? (book : Book) (y : Px) (button : MouseButton) (keys : HeldKeys) :
    Option Widget → Option (Move × Bool)
  | none => some (.stay, false)
  | some (.tab index) => some (book.tabMove index button keys)
  | some .home =>
    some (if button = .left then (.goTo book.settings.mainMenu, true) else (.stay, false))
  | some .addBookmark =>
    some (if button = .left then book.markMove book.active.path else (.stay, false))
  | some .slider => if button = .left then book.dragMove? y else some (.stay, false)

/-- What an action comes down to, and its answer. -/
def moveOf? (book : Book) : Action → Option (Move × Bool)
  | .setPage path => some (.goTo path, true)
  | .setProgress progress => some (.scroll progress, true)
  | .resize screenWidth screenHeight => some (.resize screenWidth screenHeight, true)
  | .addBookmark path => some (book.markMove path)
  | .removeBookmark path => some (book.unmarkMove path)
  | .clickTab index button keys => some (book.tabMove index button keys)
  | .click x y button keys => do book.widgetMove? y button keys (← book.hit? x y)
  | .drag y => book.dragMove? y
  | .render x y _ => do
    let _ ← book.render? x y
    return (.refresh, true)

def carryOut? (book : Book) (decided : Move × Bool) : Option (Book × Bool) := do
  return (← decided.1.make? book, decided.2)

private theorem addBookmark?_eq (book : Book) (path : String) :
    book.addBookmark? path = book.carryOut? (book.markMove path) := by
  unfold addBookmark? markMove
  cases added : book.bookmarks.add? path with
  | none => rfl
  | some longer => simp [carryOut?, Move.make?, added, shelfWith]

private theorem removeBookmark?_eq (book : Book) (path : String) :
    book.removeBookmark? path = book.carryOut? (book.unmarkMove path) := by
  unfold removeBookmark? unmarkMove
  cases removed : book.bookmarks.remove? path with
  | none => rfl
  | some shorter => simp [carryOut?, Move.make?, removed]

private theorem clickTab?_eq (book : Book) (index : Nat) (button : MouseButton) (keys : HeldKeys) :
    book.clickTab? index button keys = book.carryOut? (book.tabMove index button keys) := by
  unfold clickTab? tabMove
  cases book.bookmarks.get? index with
  | none => rfl
  | some tab =>
    dsimp only
    split
    · split
      · split
        · exact book.removeBookmark?_eq tab.page
        · rfl
      · rfl
    · split <;> rfl

private theorem drag?_eq (book : Book) (y : Px) :
    book.drag? y = (book.dragMove? y).bind book.carryOut? := by
  unfold drag? dragMove?
  split
  · cases Slider.progress? book.viewport.rail book.settings.sliderHeight y <;> rfl
  · rfl

private theorem click?_eq (book : Book) (x y : Px) (button : MouseButton) (keys : HeldKeys) :
    book.click? x y button keys =
      (book.hit? x y).bind fun hit => (book.widgetMove? y button keys hit).bind book.carryOut? := by
  unfold click?
  apply congrArg
  funext hit
  rcases hit with _ | widget
  · rfl
  · unfold widgetMove?
    cases widget with
    | tab index => exact book.clickTab?_eq index button keys
    | home => cases button <;> rfl
    | addBookmark =>
      rw [addBookmark?_eq]
      cases button <;> rfl
    | slider =>
      rw [drag?_eq]
      cases button <;> rfl

/-- A frame is the scene of the refreshed book, drawn on the sheet of the artwork. -/
theorem exists_of_render? {book next : Book} {x y : Px} {list : DrawList}
    (drawn : book.render? x y = some (list, next)) :
    book.refresh? = some next ∧ ∃ scene, next.scene? x y = some scene ∧
      DrawList.ofScene? Artwork.texture next.artwork.size scene = some list := by
  obtain ⟨refreshed, found, rest⟩ := Option.bind_eq_some_iff.mp drawn
  obtain ⟨scene, shown, rest⟩ := Option.bind_eq_some_iff.mp rest
  obtain ⟨frame, painted, result⟩ := Option.bind_eq_some_iff.mp rest
  obtain ⟨rfl, rfl⟩ := Prod.mk.inj (Option.some.inj result)
  exact ⟨found, scene, shown, painted⟩

/-- Performing an action is carrying out the move that it comes down to. -/
theorem perform?_eq (book : Book) (action : Action) :
    book.perform? action = (book.moveOf? action).bind book.carryOut? := by
  cases action with
  | setPage path => rfl
  | setProgress progress => rfl
  | resize screenWidth screenHeight => rfl
  | addBookmark path => exact book.addBookmark?_eq path
  | removeBookmark path => exact book.removeBookmark?_eq path
  | clickTab index button keys => exact book.clickTab?_eq index button keys
  | click x y button keys =>
    rw [perform?, click?_eq, moveOf?]
    cases book.hit? x y <;> rfl
  | drag y => exact book.drag?_eq y
  | render x y tick =>
    rw [perform?, moveOf?]
    cases drawn : book.render? x y with
    | none => rfl
    | some answer =>
      have refreshed : Move.refresh.make? book = some answer.2 := (exists_of_render? drawn).1
      exact (congrArg (Option.bind · fun next => some (next, true)) refreshed).symm

end Handbook.Book
