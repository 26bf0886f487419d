import Handbook.Proofs.Binary32.Order
import Handbook.Proofs.Book.Runs
import Handbook.Proofs.Book.Scenes
import Handbook.Proofs.Draw.Scenes

namespace Handbook

namespace Patch

variable {size : SheetSize} {z : Binary32} {patch : Patch} {patches : List Patch}
  {quads : List Quad}

private theorem z_of_quad? {quad : Quad} (formed : patch.quad? size = some quad) :
    quad.z = patch.z := by
  obtain ⟨right, -, formed⟩ := Option.bind_eq_some_iff.mp formed
  obtain ⟨bottom, -, formed⟩ := Option.bind_eq_some_iff.mp formed
  cases formed
  rfl

private theorem z_of_quads? (formed : quads? size patches = some quads)
    (every : ∀ patch ∈ patches, patch.z = z) : ∀ quad ∈ quads, quad.z = z := by
  intro quad member
  obtain ⟨patch, inPatches, isQuad⟩ := exists_of_mem_answers (forall₂_of_mapM_eq_some formed) member
  exact (z_of_quad? isQuad).trans (every patch inPatches)

end Patch

theorem Part.On.z_of_mem_labels {layer : Layer} {part : Part} {label : Label}
    (onLayer : part.On layer) (member : label ∈ part.labels) : label.z = layer.depth := by
  cases part with
  | label text =>
    rw [List.mem_singleton.mp member]
    exact onLayer
  | _ => cases member

theorem Layer.depth_ascending :
    Layer.all.Pairwise fun back front => back.depth.less front.depth = true := by
  decide

theorem Layer.depth_agrees (layer : Layer) : layer.depth.agrees layer.depth = true := by
  cases layer <;> rfl

theorem Layer.eq_of_depth {layer other : Layer} (same : layer.depth = other.depth) :
    layer = other := by
  revert same
  cases layer <;> cases other <;> decide

theorem Part.On.z_of_request? {texture : UInt32} {size : SheetSize} {layer : Layer} {part : Part}
    {request : Command} (onLayer : part.On layer)
    (formed : part.request? texture size = some request) :
    ∀ primitive ∈ request.primitives, primitive.z = layer.depth := by
  intro primitive member
  cases part with
  | sprites tint patches =>
    obtain ⟨quads, areQuads, result⟩ := Option.bind_eq_some_iff.mp formed
    cases result
    obtain ⟨quad, inQuads, rfl⟩ := List.mem_map.mp member
    exact Patch.z_of_quads? areQuads (fun patch inPatches => (onLayer patch inPatches).depth) quad
      inQuads
  | fill color z rects =>
    cases formed
    obtain ⟨rect, -, rfl⟩ := List.mem_map.mp member
    exact onLayer
  | label text =>
    cases formed
    rw [List.mem_singleton.mp member]
    exact onLayer

theorem Primitive.place?_of_same {first second : Primitive} (same : first.Same second) :
    first.z.place? = second.z.place? := by
  cases first with
  | textured texture tint quad =>
    cases second <;> cases same
    rfl
  | solid color z rect =>
    cases second with
    | solid otherColor otherZ otherRect =>
      obtain ⟨-, rfl | agree, -⟩ := same
      · rfl
      · exact Binary32.place?_of_agrees agree
    | textured texture tint quad => cases same
    | text label => cases same
  | text label =>
    cases second <;> cases same
    rfl

/-- The first part lies on a layer that is not in front of a layer of the second. -/
def Part.Before (first second : Part) : Prop :=
  ∃ back front : Layer, back.depth.NotAfter front.depth ∧ first.On back ∧ second.On front

variable {texture : UInt32} {size : SheetSize} {partsOn : Layer → List Part}

private theorem pairwise_before (onLayer : ∀ layer, ∀ part ∈ partsOn layer, part.On layer) :
    (Layer.all.flatMap partsOn).Pairwise Part.Before := by
  rw [List.pairwise_flatMap]
  constructor
  · intro layer _
    apply List.pairwise_of_forall_mem_list
    intro first isFirst second isSecond
    exact ⟨layer, layer, .inr layer.depth_agrees, onLayer layer first isFirst,
      onLayer layer second isSecond⟩
  · apply Layer.depth_ascending.imp
    intro back front less first isFirst second isSecond
    exact ⟨back, front, .inl less, onLayer back first isFirst, onLayer front second isSecond⟩

/-- What parts ask for that come layer by layer has the depth of a layer. -/
theorem exists_layer_of_request {scene : List Part} {requests : List Command}
    (layered : ∀ part ∈ scene, ∃ layer, part.On layer)
    (fit : List.Forall₂ (fun part request => part.request? texture size = some request) scene
      requests) {request : Command} (member : request ∈ requests) :
    ∃ layer : Layer, ∀ primitive ∈ request.primitives, primitive.z = layer.depth := by
  obtain ⟨part, inScene, isRequest⟩ := exists_of_mem_answers fit member
  obtain ⟨layer, onLayer⟩ := layered part inScene
  exact ⟨layer, onLayer.z_of_request? isRequest⟩

/-- Parts in the order of their layers ask for primitives in the order of their depths. -/
theorem pairwise_requests {scene : List Part} {requests : List Command}
    (layered : ∀ part ∈ scene, ∃ layer, part.On layer) (ordered : scene.Pairwise Part.Before)
    (fit : List.Forall₂ (fun part request => part.request? texture size = some request) scene
      requests) :
    (requests.flatMap Command.primitives).Pairwise fun first second =>
      first.z.NotAfter second.z := by
  rw [List.pairwise_flatMap]
  constructor
  · intro request member
    obtain ⟨layer, depth⟩ := exists_layer_of_request layered fit member
    apply List.pairwise_of_forall_mem_list
    intro first isFirst second isSecond
    rw [depth first isFirst, depth second isSecond]
    exact .inr layer.depth_agrees
  · refine pairwise_answers fit ordered ?_
    rintro first second firstRequest secondRequest ⟨back, front, notAfter, onBack, onFront⟩
      isFirst isSecond primitive member later inLater
    rw [onBack.z_of_request? isFirst primitive member, onFront.z_of_request? isSecond later inLater]
    exact notAfter

/-- Parts in the order of their layers are drawn in the order of their depths. -/
theorem DrawList.layered_ofScene? {scene : List Part} {list : DrawList}
    (layered : ∀ part ∈ scene, ∃ layer, part.On layer) (ordered : scene.Pairwise Part.Before)
    (draws : ofScene? texture size scene = some list) :
    (list.primitives.Pairwise fun first second => first.z.NotAfter second.z) ∧
      ∀ primitive ∈ list.primitives, ∃ layer : Layer, primitive.z = layer.depth := by
  obtain ⟨requests, fit, rfl⟩ := exists_requests_of_foldlM draws
  constructor
  · have shown := (pairwise_requests layered ordered fit).filter Primitive.shows
    refine pairwise_answers (same_ofRequests requests).flip shown ?_
    intro first second firstDrawn secondDrawn notAfter sameFirst sameSecond
    exact notAfter.congr (Primitive.place?_of_same sameFirst).symm
      (Primitive.place?_of_same sameSecond).symm
  · intro primitive member
    obtain ⟨asked, isAsked, sameDepth⟩ := batched_empty.exists_z_foldl_add requests member
    obtain ⟨request, inRequests, inRequest⟩ := List.mem_flatMap.mp isAsked
    obtain ⟨layer, depth⟩ := exists_layer_of_request layered fit inRequests
    exact ⟨layer, sameDepth.symm.trans (depth asked inRequest)⟩

namespace Book

/-- Whatever a book shows and wherever the cursor is, its frame is painted from back to front: no
depth is followed by one further back, and every depth is that of a layer. -/
theorem paints_back_to_front {book next : Book} {x y : Px} {list : DrawList}
    (drawn : book.render? x y = some (list, next)) :
    (list.primitives.Pairwise fun first second => first.z.NotAfter second.z) ∧
      ∀ primitive ∈ list.primitives, ∃ layer : Layer, primitive.z = layer.depth := by
  obtain ⟨-, scene, isScene, painted⟩ := exists_of_render? drawn
  obtain ⟨pieces, rfl⟩ := exists_of_scene? isScene
  rw [pieces.scene_eq_flatMap] at painted
  refine DrawList.layered_ofScene? ?_ (pairwise_before pieces.on_layer) painted
  intro part member
  obtain ⟨layer, -, inLayer⟩ := List.mem_flatMap.mp member
  exact ⟨layer, pieces.on_layer layer part inLayer⟩

/-- A way to a page that is not the one of the only tab. -/
def pastATab : List Action := [.setPage "/a.md", .addBookmark "/a.md", .setPage "/b.md"]

/-- With the cursor on a tab and lines around the page text, a frame has something on every layer. -/
theorem paints_back_to_front_pastATab :
    ∃ start steps book list next,
      openAt { wireframe := true } (fun path => some ⟨path, "# One\ntwo"⟩) Font.standard 400 200 =
        .ok start ∧
      start.replay? pastATab = some (steps, book) ∧
      book.render? 305 10 = some (list, next) ∧
      (∀ layer ∈ Layer.all, ∃ primitive ∈ list.primitives, primitive.z = layer.depth) ∧
      (list.primitives.Pairwise fun first second => first.z.NotAfter second.z) ∧
      ∀ primitive ∈ list.primitives, ∃ layer : Layer, primitive.z = layer.depth := by
  have seen :
      ((openAt { wireframe := true } (fun path => some ⟨path, "# One\ntwo"⟩) Font.standard 400
        200).toOption.bind fun start => (start.replay? pastATab).map fun ran =>
          (ran.2.render? 305 10).map fun drawn => Layer.all.all fun layer =>
            drawn.1.primitives.any fun primitive => decide (primitive.z = layer.depth)) =
        some (some true) := by
    decide +kernel
  obtain ⟨start, steps, book, opened, replayed, -, -, result⟩ := exists_run_of_view seen
  obtain ⟨⟨list, next⟩, drawn, onEach⟩ := Option.map_eq_some_iff.mp result
  refine ⟨start, steps, book, list, next, opened, replayed, drawn, ?_, paints_back_to_front drawn⟩
  intro layer member
  obtain ⟨primitive, painted, onLayer⟩ :=
    List.any_eq_true.mp (List.all_eq_true.mp onEach layer member)
  exact ⟨primitive, painted, of_decide_eq_true onLayer⟩

end Book

end Handbook
