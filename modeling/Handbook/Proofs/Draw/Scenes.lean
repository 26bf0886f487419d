import Handbook.Draw.Scene
import Handbook.Proofs.Answers
import Handbook.Proofs.Draw.Batching

namespace Handbook

def Part.patches : Part → List Patch
  | .sprites _ patches => patches
  | .fill _ _ _ | .label _ => []

def Part.labels : Part → List Label
  | .label text => [text]
  | .sprites _ _ | .fill _ _ _ => []

/-- What drawing a part asks of the draw list. -/
def Part.request? (texture : UInt32) (size : SheetSize) : Part → Option Command
  | .sprites tint patches => do return .textured texture tint (← Patch.quads? size patches)
  | .fill color z rects => some (.solid color z rects)
  | .label text => some (.text text)

theorem Part.draw?_eq (texture : UInt32) (size : SheetSize) (list : DrawList) (part : Part) :
    part.draw? texture size list = (part.request? texture size).map list.add := by
  cases part with
  | sprites tint patches =>
    rw [draw?, request?]
    cases Patch.quads? size patches <;> rfl
  | fill color z rects => rfl
  | label text => rfl

namespace DrawList

/-- Drawing a scene is asking for its parts one after the other. -/
theorem exists_requests_of_foldlM {texture : UInt32} {size : SheetSize} {scene : List Part}
    {list drawn : DrawList} (draws : scene.foldlM (Part.draw? texture size) list = some drawn) :
    ∃ requests,
      List.Forall₂ (fun part request => Part.request? texture size part = some request) scene
        requests ∧
      drawn = requests.foldl DrawList.add list := by
  induction scene generalizing list with
  | nil =>
    cases draws
    exact ⟨[], .nil, rfl⟩
  | cons part rest ih =>
    rw [List.foldlM_cons] at draws
    obtain ⟨next, drawsPart, drawsRest⟩ := Option.bind_eq_some_iff.mp draws
    rw [Part.draw?_eq] at drawsPart
    obtain ⟨request, isRequest, rfl⟩ := Option.map_eq_some_iff.mp drawsPart
    obtain ⟨requests, areRequests, rfl⟩ := ih drawsRest
    exact ⟨request :: requests, .cons isRequest areRequests, rfl⟩

variable {texture : UInt32} {size : SheetSize} {scene : List Part} {requests : List Command}
  {list : DrawList}

private theorem labels_of_request? {part : Part} {request : Command}
    (isRequest : part.request? texture size = some request) : request.labels = part.labels := by
  cases part with
  | sprites tint patches =>
    obtain ⟨quads, -, result⟩ := Option.bind_eq_some_iff.mp isRequest
    cases result
    rfl
  | fill color z rects =>
    cases isRequest
    rfl
  | label text =>
    cases isRequest
    rfl

private theorem quads_of_request? {part : Part} {request : Command}
    (isRequest : part.request? texture size = some request) :
    Patch.quads? size part.patches = some request.quads := by
  cases part with
  | sprites tint patches =>
    obtain ⟨quads, formed, result⟩ := Option.bind_eq_some_iff.mp isRequest
    cases result
    exact formed
  | fill color z rects =>
    cases isRequest
    rfl
  | label text =>
    cases isRequest
    rfl

private theorem labels_of_requests
    (fit : List.Forall₂ (fun part request => Part.request? texture size part = some request) scene
      requests) : requests.flatMap Command.labels = scene.flatMap Part.labels := by
  induction fit with
  | nil => rfl
  | cons isRequest _ ih =>
    rw [List.flatMap_cons, List.flatMap_cons, labels_of_request? isRequest, ih]

private theorem quads_of_requests
    (fit : List.Forall₂ (fun part request => Part.request? texture size part = some request) scene
      requests) :
    Patch.quads? size (scene.flatMap Part.patches) = some (requests.flatMap Command.quads) := by
  induction fit with
  | nil => rfl
  | cons isRequest _ ih =>
    have first := quads_of_request? isRequest
    unfold Patch.quads? at first ih ⊢
    rw [List.flatMap_cons, List.mapM_append, first, ih]
    rfl

/-- The labels of a drawn scene are those of its parts that show. -/
theorem labels_ofScene? (draws : ofScene? texture size scene = some list) :
    list.labels = (scene.flatMap Part.labels).filter Label.shows := by
  obtain ⟨requests, fit, rfl⟩ := exists_requests_of_foldlM draws
  have asked : requests.flatMap Command.labels = scene.flatMap Part.labels := labels_of_requests fit
  change (ofRequests requests).labels = _
  rw [labels_eq_filterMap, Primitive.filterMap_eq_of_same Primitive.label?_eq_of_same
    (same_ofRequests requests), Primitive.filterMap_label?_shows, List.filterMap_flatMap]
  simp only [Command.filterMap_label?, asked]

theorem quads_ofScene? (draws : ofScene? texture size scene = some list) :
    Patch.quads? size (scene.flatMap Part.patches) = some list.quads := by
  obtain ⟨requests, fit, rfl⟩ := exists_requests_of_foldlM draws
  rw [quads_of_requests fit]
  change some _ = some (ofRequests requests).quads
  rw [quads_eq_filterMap, Primitive.filterMap_eq_of_same Primitive.quad?_eq_of_same
    (same_ofRequests requests), Primitive.filterMap_quad?_shows, List.filterMap_flatMap]
  simp only [Command.filterMap_quad?]

end DrawList

end Handbook
