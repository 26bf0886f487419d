import Handbook.Proofs.Book.Appearance
import Handbook.Proofs.Book.Scenes
import Handbook.Proofs.Draw.Scenes

namespace Handbook

theorem Part.On.onSheet {layer : Layer} {part : Part} (onLayer : part.On layer) :
    ∀ patch ∈ part.patches, patch.OnSheet Artwork.extent := by
  intro patch member
  cases part with
  | sprites tint patches => exact (onLayer patch member).onSheet
  | _ => cases member

namespace Book

variable {settings : Settings} {source : String → Option Document} {font : Font}
  {start book next : Book} {steps : List Step}

/-- Whatever a book shows, all of it is taken from the extent of the artwork. -/
theorem onSheet_scene? {x y : Px} {scene : List Part} (drawn : book.scene? x y = some scene) :
    ∀ part ∈ scene, ∀ patch ∈ part.patches, patch.OnSheet Artwork.extent := by
  obtain ⟨pieces, rfl⟩ := exists_of_scene? drawn
  intro part member
  rw [pieces.scene_eq_flatMap] at member
  obtain ⟨layer, -, inLayer⟩ := List.mem_flatMap.mp member
  exact (pieces.on_layer layer part inLayer).onSheet

/-- A drawn frame has the quads of the patches of its scene, on the sheet that the settings name. -/
theorem Run.exists_scene {screenWidth screenHeight x y : Px} {list : DrawList}
    (opened : openAt settings source font screenWidth screenHeight = .ok start)
    (run : Run start steps book) (drawn : book.render? x y = some (list, next)) :
    ∃ scene, next.scene? x y = some scene ∧
      Patch.quads? settings.sheet (scene.flatMap Part.patches) = some list.quads := by
  obtain ⟨refreshed, scene, isScene, painted⟩ := exists_of_render? drawn
  have quads := DrawList.quads_ofScene? painted
  have sameArtwork : next.artwork = start.artwork :=
    (agrees_refresh? refreshed).artwork.trans run.fixed.artwork
  rw [sameArtwork, Artwork.size_of (opened_of_openAt opened).artwork] at quads
  exact ⟨scene, isScene, quads⟩

/-- On a sheet that holds the artwork for every look, nothing that a book shows is taken from
outside the sheet, however the book was used and wherever the cursor is. -/
theorem Run.samples_on_sheet {settings : Settings} {source : String → Option Document} {font : Font}
    {screenWidth screenHeight x y : Px} {start book next : Book} {steps : List Step}
    {list : DrawList}
    (opened : openAt settings source font screenWidth screenHeight = .ok start)
    (run : Run start steps book) (drawn : book.render? x y = some (list, next))
    (wide : 240 ≤ settings.sheet.width.toNat) (high : 128 ≤ settings.sheet.height.toNat) :
    ∃ scene, next.scene? x y = some scene ∧
      Patch.quads? settings.sheet (scene.flatMap Part.patches) = some list.quads ∧
      ∀ patch ∈ scene.flatMap Part.patches, patch.OnSheet settings.sheet := by
  obtain ⟨scene, isScene, quads⟩ := run.exists_scene opened drawn
  refine ⟨scene, isScene, quads, ?_⟩
  intro patch member
  obtain ⟨part, inScene, inPart⟩ := List.mem_flatMap.mp member
  exact (onSheet_scene? isScene part inScene patch inPart).mono wide high

theorem Run.samples_on_sheet_detour :
    ∃ start steps book list next scene,
      openAt {} (fun path => some ⟨path, "# One\ntwo"⟩) Font.standard 800 600 = .ok start ∧
      start.replay? detour = some (steps, book) ∧ book.render? 20 20 = some (list, next) ∧
      next.scene? 20 20 = some scene ∧
      ∀ patch ∈ scene.flatMap Part.patches, patch.OnSheet ⟨256, 256⟩ := by
  have drawn :
      ((openAt {} (fun path => some ⟨path, "# One\ntwo"⟩) Font.standard 800 600).toOption.bind
        fun start => (start.replay? detour).map fun ran => (ran.2.render? 20 20).isSome) =
        some true := by
    decide +kernel
  obtain ⟨start, steps, book, opened, replayed, run, -, result⟩ := exists_run_of_view drawn
  obtain ⟨⟨list, next⟩, isDrawn⟩ := Option.isSome_iff_exists.mp result
  obtain ⟨scene, isScene, -, onSheet⟩ :=
    Run.samples_on_sheet opened run isDrawn (by decide) (by decide)
  exact ⟨start, steps, book, list, next, scene, opened, replayed, isDrawn, isScene, onSheet⟩

/-- A sheet of 80 rows is accepted, but the thumb of a slider that has nothing to scroll is taken
from rows below it. -/
theorem samples_below_short_sheet :
    ∃ start list next scene,
      openAt { sheet := ⟨256, 80⟩ } (fun path => some ⟨path, "hi"⟩) Font.standard 800 600 =
        .ok start ∧
      start.render? 0 0 = some (list, next) ∧ next.scene? 0 0 = some scene ∧
      Patch.quads? ⟨256, 80⟩ (scene.flatMap Part.patches) = some list.quads ∧
      ∃ patch ∈ scene.flatMap Part.patches, ¬patch.OnSheet ⟨256, 80⟩ := by
  have seen :
      ((openAt { sheet := ⟨256, 80⟩ } (fun path => some ⟨path, "hi"⟩) Font.standard 800
        600).toOption.bind fun start => (start.render? 0 0).bind fun drawn =>
          (drawn.2.scene? 0 0).map fun scene =>
            (scene.flatMap Part.patches).any fun patch => !decide (patch.OnSheet ⟨256, 80⟩)) =
        some true := by
    decide +kernel
  obtain ⟨start, started, rest⟩ := Option.bind_eq_some_iff.mp seen
  obtain ⟨⟨list, next⟩, isDrawn, rest⟩ := Option.bind_eq_some_iff.mp rest
  obtain ⟨scene, isScene, result⟩ := Option.map_eq_some_iff.mp rest
  obtain ⟨patch, member, outside⟩ := List.any_eq_true.mp result
  have opened := Fault.toOption_eq_some_iff.mp started
  obtain ⟨sameScene, isSame, quads⟩ := Run.exists_scene opened .nil isDrawn
  cases isScene.symm.trans isSame
  exact ⟨start, list, next, scene, opened, isDrawn, isScene, quads, patch, member,
    by simpa using outside⟩

end Book

end Handbook
