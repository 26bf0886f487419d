import Mathlib.Data.List.Forall2
import Handbook.Draw.DrawList

/-!
Batches. A draw list is read as the single things that it paints, one after the other. Joining a batch
does not change this reading, so what is asked for is painted in the order of asking; and a draw list
never has two neighbours that could be one batch.
-/

namespace Handbook

namespace Binary32

private theorem eq_nan_of_place? {z : Binary32} (noPlace : z.place? = none) : z = nan := by
  cases z with
  | nan => rfl
  | infinity negative => cases noPlace
  | finite negative units representable => cases noPlace

private theorem eq_or_agrees_of_place? {z other : Binary32} (samePlace : z.place? = other.place?) :
    z = other ∨ z.agrees other = true := by
  cases place : z.place? with
  | some units => exact .inr (by simp [agrees, ← samePlace, place])
  | none =>
    rw [eq_nan_of_place? place, eq_nan_of_place? (samePlace.symm.trans place)]
    exact .inl rfl

theorem place?_of_agrees {z other : Binary32} (agree : z.agrees other = true) :
    z.place? = other.place? := by
  unfold agrees at agree
  split at agree
  · next before after place otherPlace =>
    rw [place, otherPlace, of_decide_eq_true agree]
  · cases agree

end Binary32

def Label.shows (label : Label) : Bool := label.text != ""

/-- A single thing to paint. -/
inductive Primitive where
  | textured (texture tint : UInt32) (quad : Quad)
  | solid (color : UInt32) (z : Binary32) (rect : Rect)
  | text (label : Label)
deriving DecidableEq

namespace Primitive

def quad? : Primitive → Option Quad
  | .textured _ _ quad => some quad
  | .solid _ _ _ | .text _ => none

def rect? : Primitive → Option Rect
  | .solid _ _ rect => some rect
  | .textured _ _ _ | .text _ => none

def label? : Primitive → Option Label
  | .text label => some label
  | .textured _ _ _ | .solid _ _ _ => none

def z : Primitive → Binary32
  | .textured _ _ quad => quad.z
  | .solid _ z _ => z
  | .text label => label.z

/-- There is something to see: a rectangle needs a pixel for that and a text a character. -/
def shows : Primitive → Bool
  | .textured _ _ _ => true
  | .solid _ _ rect => !rect.isEmpty
  | .text label => label.shows

/-- The same thing to paint, except that a rectangle may take a depth for one that is equal as a
number. -/
def Same : Primitive → Primitive → Prop
  | .solid color z rect, .solid color' z' rect' =>
    color = color' ∧ (z = z' ∨ z.agrees z' = true) ∧ rect = rect'
  | first, second => first = second

/-- What decides whether two primitives are the same: the place of a rectangle's depth on the line, and
all the rest of the primitive. -/
def key : Primitive → Primitive × Option Int
  | .solid color z rect => (.solid color 0 rect, z.place?)
  | .textured texture tint quad => (.textured texture tint quad, none)
  | .text label => (.text label, none)

private theorem same_of_key {first second : Primitive} (sameKey : first.key = second.key) :
    first.Same second := by
  cases first <;> cases second <;> simp only [key, Prod.mk.injEq, reduceCtorEq, false_and] at sameKey
  · exact sameKey.1
  · obtain ⟨same, samePlace⟩ := sameKey
    obtain ⟨sameColor, -, sameRect⟩ := solid.inj same
    exact ⟨sameColor, Binary32.eq_or_agrees_of_place? samePlace, sameRect⟩
  · exact sameKey.1

theorem quad?_eq_of_same {first second : Primitive} (same : first.Same second) :
    first.quad? = second.quad? := by
  cases first <;> cases second <;> cases same <;> rfl

private theorem rect?_eq_of_same {first second : Primitive} (same : first.Same second) :
    first.rect? = second.rect? := by
  cases first <;> cases second <;> simp_all [Same, rect?]

theorem label?_eq_of_same {first second : Primitive} (same : first.Same second) :
    first.label? = second.label? := by
  cases first <;> cases second <;> cases same <;> rfl

/-- What is the same of primitives is the same of lists of them. -/
theorem filterMap_eq_of_same {α : Type} {read : Primitive → Option α}
    (respects : ∀ {first second : Primitive}, first.Same second → read first = read second)
    {list other : List Primitive} (same : List.Forall₂ Same list other) :
    list.filterMap read = other.filterMap read := by
  induction same with
  | nil => rfl
  | cons first _ ih => simp only [List.filterMap_cons, respects first, ih]

theorem filterMap_quad?_shows (list : List Primitive) :
    (list.filter shows).filterMap quad? = list.filterMap quad? := by
  rw [List.filterMap_filter]
  congr 1
  funext primitive
  cases primitive with
  | textured texture tint quad => rfl
  | solid color z rect => simp [shows, quad?]
  | text label => cases visible : label.shows <;> simp [shows, quad?, visible]

theorem filterMap_label?_shows (list : List Primitive) :
    (list.filter shows).filterMap label? = (list.filterMap label?).filter Label.shows := by
  rw [List.filterMap_filter, List.filter_filterMap]
  congr 1
  funext primitive
  cases primitive with
  | textured texture tint quad => rfl
  | solid color z rect => simp [shows, label?]
  | text label => cases visible : label.shows <;> simp [shows, label?, visible, Option.filter]

end Primitive

namespace Command

/-- What a command paints, one thing at a time. -/
def primitives : Command → List Primitive
  | .textured texture tint quads => quads.map (.textured texture tint)
  | .solid color z rects => rects.map (.solid color z)
  | .text label => [.text label]

/-- Both commands could be one batch: quads of the same texture under the same tint, or rectangles of
the same colour at depths that are equal as numbers. -/
def Together : Command → Command → Prop
  | .textured texture tint _, .textured texture' tint' _ => texture = texture' ∧ tint = tint'
  | .solid color z _, .solid color' z' _ => color = color' ∧ z.agrees z' = true
  | _, _ => False

def rects : Command → List Rect
  | .solid _ _ rects => rects
  | .textured _ _ _ | .text _ => []

def quads : Command → List Quad
  | .textured _ _ quads => quads
  | .solid _ _ _ | .text _ => []

def labels : Command → List Label
  | .text label => [label]
  | .textured _ _ _ | .solid _ _ _ => []

theorem filterMap_quad? (command : Command) :
    command.primitives.filterMap Primitive.quad? = command.quads := by
  cases command <;> simp [primitives, quads, List.filterMap_map, Function.comp_def, Primitive.quad?]

private theorem filterMap_rect? (command : Command) :
    command.primitives.filterMap Primitive.rect? = command.rects := by
  cases command <;> simp [primitives, rects, List.filterMap_map, Function.comp_def, Primitive.rect?]

theorem filterMap_label? (command : Command) :
    command.primitives.filterMap Primitive.label? = command.labels := by
  cases command <;>
    simp [primitives, labels, List.filterMap_map, Function.comp_def, Primitive.label?]

variable {first second joined : Command}

private theorem not_together_of_join? (apart : first.join? second = none) :
    ¬ first.Together second := by
  cases first <;> cases second <;> simp_all [join?, Together]

private theorem keys_join? (joins : first.join? second = some joined) :
    joined.primitives.map Primitive.key =
      first.primitives.map Primitive.key ++ second.primitives.map Primitive.key := by
  unfold join? at joins
  split at joins
  · split at joins <;> cases joins
    next alike =>
    obtain ⟨rfl, rfl⟩ := alike
    simp [primitives]
  · split at joins <;> cases joins
    next alike =>
    obtain ⟨rfl, agree⟩ := alike
    simp [primitives, Primitive.key, Function.comp_def, Binary32.place?_of_agrees agree]
  · cases joins

private theorem together_join? (joins : first.join? second = some joined) (earlier : Command) :
    earlier.Together joined ↔ earlier.Together first := by
  unfold join? at joins
  split at joins
  · split at joins <;> cases joins
    cases earlier <;> rfl
  · split at joins <;> cases joins
    cases earlier <;> rfl
  · cases joins

private theorem exists_z_of_join? (joins : first.join? second = some joined)
    (filled : first.primitives ≠ []) {primitive : Primitive} (member : primitive ∈ joined.primitives) :
    ∃ asked ∈ first.primitives ++ second.primitives, asked.z = primitive.z := by
  unfold join? at joins
  split at joins
  · split at joins <;> cases joins
    next alike =>
    obtain ⟨rfl, rfl⟩ := alike
    refine ⟨primitive, ?_, rfl⟩
    simpa [primitives] using member
  · split at joins <;> cases joins
    obtain ⟨some, before⟩ := List.exists_mem_of_ne_nil _ filled
    refine ⟨some, List.mem_append_left _ before, ?_⟩
    obtain ⟨rect, -, rfl⟩ := List.mem_map.mp before
    obtain ⟨other, -, rfl⟩ := List.mem_map.mp member
    rfl
  · cases joins

end Command

namespace DrawList

/-- Everything that a draw list paints, in the order of painting. -/
def primitives (list : DrawList) : List Primitive := list.commands.flatMap Command.primitives

/-- Adds what a request asks to paint. Requests have the form of commands, but they may be empty. -/
def add (list : DrawList) : Command → DrawList
  | .textured texture tint quads => list.addTextured texture tint quads
  | .solid color z rects => list.addSolid color z rects
  | .text label => list.addText label

variable {command : Command} {commands : List Command} {list : DrawList} {request : Command}

/-- What reads the same off two commands and off the command that joins them reads the same off a
draw list, whether or not a command joins its last one. -/
theorem flatMap_extend {α : Type} {read : Command → List α}
    (respects : ∀ {first second joined : Command}, first.join? second = some joined →
      read joined = read first ++ read second)
    (command : Command) (commands : List Command) :
    (extend command commands).flatMap read = commands.flatMap read ++ read command := by
  induction commands with
  | nil => simp [extend]
  | cons first rest ih =>
    cases rest with
    | nil =>
      unfold extend
      split
      · next joined joins => simp [respects joins]
      · simp
    | cons next rest => simp [extend, ih]

private theorem keys_extend (command : Command) (commands : List Command) :
    (DrawList.mk (extend command commands)).primitives.map Primitive.key =
      (DrawList.mk commands).primitives.map Primitive.key ++ command.primitives.map Primitive.key := by
  simp only [primitives, List.map_flatMap]
  exact flatMap_extend Command.keys_join? command commands

/-- The commands of an extended list are those before, the new one or one that it joined. -/
theorem mem_extend {member : Command} (found : member ∈ extend command commands) :
    member ∈ commands ∨ member = command ∨
      ∃ last ∈ commands, last.join? command = some member := by
  induction commands with
  | nil => exact .inr (.inl (List.mem_singleton.mp found))
  | cons first rest ih =>
    cases rest with
    | nil =>
      unfold extend at found
      split at found
      · next joined joins =>
        rw [List.mem_singleton.mp found]
        exact .inr (.inr ⟨first, List.mem_cons_self .., joins⟩)
      · rcases List.mem_cons.mp found with rfl | isNew
        · exact .inl (List.mem_cons_self ..)
        · exact .inr (.inl (List.mem_singleton.mp isNew))
    | cons next rest =>
      rw [extend] at found
      rcases List.mem_cons.mp found with rfl | later
      · exact .inl (List.mem_cons_self ..)
      · rcases ih later with inRest | isNew | ⟨last, inRest, joins⟩
        · exact .inl (List.mem_cons_of_mem _ inRest)
        · exact .inr (.inl isNew)
        · exact .inr (.inr ⟨last, List.mem_cons_of_mem _ inRest, joins⟩)

/-- Extending a list leaves its first command or one that goes with the same commands. -/
theorem exists_extend_cons (command next : Command) (rest : List Command) :
    ∃ head tail, extend command (next :: rest) = head :: tail ∧
      ∀ earlier : Command, earlier.Together head ↔ earlier.Together next := by
  cases rest with
  | nil =>
    unfold extend
    split
    · next joined joins => exact ⟨joined, [], rfl, Command.together_join? joins⟩
    · exact ⟨next, [command], rfl, fun _ => .rfl⟩
  | cons second rest => exact ⟨next, _, rfl, fun _ => .rfl⟩

/-- No two neighbours could be one batch. -/
def Maximal (commands : List Command) : Prop :=
  commands.IsChain fun first second => ¬ first.Together second

theorem Maximal.extend (maximal : Maximal commands) (command : Command) :
    Maximal (DrawList.extend command commands) := by
  induction commands with
  | nil => exact .singleton command
  | cons first rest ih =>
    cases rest with
    | nil =>
      unfold DrawList.extend
      split
      · exact .singleton _
      · next apart => exact .cons_cons (Command.not_together_of_join? apart) (.singleton command)
    | cons next rest =>
      obtain ⟨notTogether, later⟩ := List.isChain_cons_cons.mp maximal
      obtain ⟨head, tail, extended, sameHead⟩ := exists_extend_cons command next rest
      have chained := ih later
      rw [DrawList.extend, extended]
      rw [extended] at chained
      exact .cons_cons (fun together => notTogether ((sameHead first).mp together)) chained

/-- A request adds a command for all of it that shows, or nothing when none of it does. -/
theorem add_cases (list : DrawList) (request : Command) :
    (list.add request = list ∧ request.primitives.filter Primitive.shows = []) ∨
      ∃ command, list.add request = ⟨extend command list.commands⟩ ∧
        command.primitives = request.primitives.filter Primitive.shows ∧
        command.primitives ≠ [] := by
  cases request with
  | textured texture tint quads =>
    have shown : (Command.textured texture tint quads).primitives.filter Primitive.shows =
        (Command.textured texture tint quads).primitives := by
      simp [Command.primitives, Primitive.shows, List.filter_map, Function.comp_def]
    rw [shown, add, addTextured]
    split
    · next empty => exact .inl ⟨rfl, by simp [Command.primitives, List.isEmpty_iff.mp empty]⟩
    · next some => exact .inr ⟨_, rfl, rfl, by simpa [Command.primitives] using some⟩
  | solid color z rects =>
    have shown : (Command.solid color z rects).primitives.filter Primitive.shows =
        (Command.solid color z (rects.filter fun rect => !rect.isEmpty)).primitives := by
      simp [Command.primitives, List.filter_map, Function.comp_def, Primitive.shows]
    rw [shown, add, addSolid]
    split
    · next empty => exact .inl ⟨rfl, by simp [Command.primitives, List.isEmpty_iff.mp empty]⟩
    · next some => exact .inr ⟨_, rfl, rfl, by simpa [Command.primitives] using some⟩
  | text label =>
    rw [add, addText]
    split
    · next empty =>
      exact .inl ⟨rfl, List.filter_cons_of_neg (by simp [Primitive.shows, Label.shows, empty])⟩
    · next some =>
      have shown : (Primitive.text label).shows = true := by
        simp [Primitive.shows, Label.shows, some]
      exact .inr ⟨_, rfl, by simp [Command.primitives, shown], List.cons_ne_nil _ _⟩

private theorem keys_add (list : DrawList) (request : Command) :
    (list.add request).primitives.map Primitive.key =
      (list.primitives ++ request.primitives.filter Primitive.shows).map Primitive.key := by
  rw [List.map_append]
  rcases list.add_cases request with ⟨unchanged, nothing⟩ | ⟨command, extended, shown, -⟩
  · rw [unchanged, nothing, List.map_nil, List.append_nil]
  · rw [extended, keys_extend, shown]

/-- The batches of a draw list are as they should be: none is empty, and no two neighbours could be
one. -/
structure Batched (list : DrawList) : Prop where
  filled : ∀ command ∈ list.commands, command.primitives ≠ []
  maximal : Maximal list.commands

theorem batched_empty : Batched {} := ⟨List.forall_mem_nil _, .nil⟩

theorem Batched.add (batched : list.Batched) (request : Command) : (list.add request).Batched := by
  rcases list.add_cases request with ⟨unchanged, -⟩ | ⟨command, extended, -, some⟩
  · rw [unchanged]
    exact batched
  · rw [extended]
    refine ⟨?_, batched.maximal.extend command⟩
    intro member found
    rcases mem_extend found with before | rfl | ⟨last, before, joins⟩
    · exact batched.filled member before
    · exact some
    · intro none
      have keys := Command.keys_join? joins
      rw [none, List.map_nil, eq_comm, List.append_eq_nil_iff] at keys
      exact batched.filled last before (List.map_eq_nil_iff.mp keys.1)

theorem Batched.exists_z_add (batched : list.Batched) (request : Command) {primitive : Primitive}
    (member : primitive ∈ (list.add request).primitives) :
    ∃ asked ∈ list.primitives ++ request.primitives, asked.z = primitive.z := by
  rcases list.add_cases request with ⟨unchanged, -⟩ | ⟨command, extended, shown, -⟩
  · rw [unchanged] at member
    exact ⟨primitive, List.mem_append_left _ member, rfl⟩
  · have within : ∀ asked ∈ command.primitives, asked ∈ request.primitives := by
      intro asked
      rw [shown]
      exact List.mem_of_mem_filter
    rw [extended] at member
    obtain ⟨holder, isHolder, inHolder⟩ := List.mem_flatMap.mp member
    rcases mem_extend isHolder with before | rfl | ⟨last, before, joins⟩
    · exact ⟨primitive, List.mem_append_left _ (List.mem_flatMap.mpr ⟨_, before, inHolder⟩), rfl⟩
    · exact ⟨primitive, List.mem_append_right _ (within _ inHolder), rfl⟩
    · obtain ⟨asked, isAsked, sameDepth⟩ :=
        Command.exists_z_of_join? joins (batched.filled last before) inHolder
      refine ⟨asked, ?_, sameDepth⟩
      rcases List.mem_append.mp isAsked with inLast | isNew
      · exact List.mem_append_left _ (List.mem_flatMap.mpr ⟨last, before, inLast⟩)
      · exact List.mem_append_right _ (within _ isNew)

def ofRequests (requests : List Command) : DrawList := requests.foldl add {}

/-- Any requests leave their batches as they should be and paint what they show. -/
theorem Batched.foldl_add (batched : list.Batched) (requests : List Command) :
    (requests.foldl DrawList.add list).Batched ∧
      (requests.foldl DrawList.add list).primitives.map Primitive.key =
        (list.primitives ++ (requests.flatMap Command.primitives).filter Primitive.shows).map
          Primitive.key := by
  induction requests generalizing list with
  | nil => exact ⟨batched, by simp⟩
  | cons request later ih =>
    obtain ⟨stillBatched, keys⟩ := ih (batched.add request)
    refine ⟨stillBatched, keys.trans ?_⟩
    rw [List.map_append, keys_add, ← List.map_append, List.append_assoc, ← List.filter_append,
      ← List.flatMap_cons]

theorem Batched.exists_z_foldl_add (batched : list.Batched) (requests : List Command)
    {primitive : Primitive} (member : primitive ∈ (requests.foldl DrawList.add list).primitives) :
    ∃ asked ∈ list.primitives ++ requests.flatMap Command.primitives, asked.z = primitive.z := by
  induction requests generalizing list with
  | nil => exact ⟨primitive, List.mem_append_left _ member, rfl⟩
  | cons request later ih =>
    obtain ⟨asked, isAsked, sameDepth⟩ := ih (batched.add request) member
    rcases List.mem_append.mp isAsked with before | inLater
    · obtain ⟨first, isFirst, alsoSame⟩ := batched.exists_z_add request before
      refine ⟨first, ?_, alsoSame.trans sameDepth⟩
      rw [List.flatMap_cons, ← List.append_assoc]
      exact List.mem_append_left _ isFirst
    · refine ⟨asked, ?_, sameDepth⟩
      rw [List.flatMap_cons]
      exact List.mem_append_right _ (List.mem_append_right _ inLater)

theorem same_ofRequests (requests : List Command) :
    List.Forall₂ Primitive.Same (ofRequests requests).primitives
      ((requests.flatMap Command.primitives).filter Primitive.shows) := by
  have keys := (batched_empty.foldl_add requests).2
  rw [← List.forall₂_eq_eq_eq, List.forall₂_map_left_iff, List.forall₂_map_right_iff] at keys
  exact keys.imp fun _ _ => Primitive.same_of_key

private theorem quads_eq_flatMap (list : DrawList) :
    list.quads = list.commands.flatMap Command.quads := by
  unfold quads
  congr 1
  funext command
  cases command <;> rfl

private theorem labels_eq_flatMap (list : DrawList) :
    list.labels = list.commands.flatMap Command.labels := by
  obtain ⟨commands⟩ := list
  unfold labels
  induction commands with
  | nil => rfl
  | cons command rest ih => cases command <;> simp [Command.labels, ih]

theorem quads_eq_filterMap (list : DrawList) :
    list.quads = list.primitives.filterMap Primitive.quad? := by
  simp only [quads_eq_flatMap, primitives, List.filterMap_flatMap, Command.filterMap_quad?]

theorem labels_eq_filterMap (list : DrawList) :
    list.labels = list.primitives.filterMap Primitive.label? := by
  simp only [labels_eq_flatMap, primitives, List.filterMap_flatMap, Command.filterMap_label?]

theorem Stats.count_eq (stats : Stats) (command : Command) :
    stats.count command =
      { quads := stats.quads + command.quads.length
        solids := stats.solids + command.rects.length
        texts := stats.texts + command.labels.length
        calls := stats.calls + 1 } := by
  cases command <;> rfl

private theorem foldl_count (commands : List Command) (stats : Stats) :
    commands.foldl Stats.count stats =
      { quads := stats.quads + (commands.flatMap Command.quads).length
        solids := stats.solids + (commands.flatMap Command.rects).length
        texts := stats.texts + (commands.flatMap Command.labels).length
        calls := stats.calls + commands.length } := by
  induction commands generalizing stats with
  | nil => rfl
  | cons command rest ih =>
    rw [List.foldl_cons, ih, Stats.count_eq]
    simp only [List.flatMap_cons, List.length_append, List.length_cons, Nat.add_assoc,
      Nat.add_comm 1]

/-- The statistics count what is painted, kind by kind, and the commands. -/
theorem stats_eq (list : DrawList) :
    list.stats =
      { quads := (list.primitives.filterMap Primitive.quad?).length
        solids := (list.primitives.filterMap Primitive.rect?).length
        texts := (list.primitives.filterMap Primitive.label?).length
        calls := list.commands.length } := by
  simp only [stats, foldl_count, Nat.zero_add, primitives, List.filterMap_flatMap,
    Command.filterMap_quad?, Command.filterMap_rect?, Command.filterMap_label?]

/-- Every total is one that a 32-bit counter holds. -/
def Stats.Fit (stats : Stats) : Prop :=
  stats.quads < UInt32.size ∧ stats.solids < UInt32.size ∧ stats.texts < UInt32.size ∧
    stats.calls < UInt32.size

private theorem length_le_of_filled (filled : ∀ command ∈ commands, command.primitives ≠ []) :
    commands.length ≤ (commands.flatMap Command.primitives).length := by
  induction commands with
  | nil => exact Nat.le_refl 0
  | cons command rest ih =>
    obtain ⟨some, later⟩ := List.forall_mem_cons.mp filled
    have first := List.length_pos_iff.mpr some
    have more := ih later
    rw [List.length_cons, List.flatMap_cons, List.length_append]
    omega

/-- Fewer than `UInt32.size` things to paint never leave a total that a 32-bit counter cannot hold. -/
theorem stats_fit (requests : List Command)
    (few : (requests.flatMap Command.primitives).length < UInt32.size) :
    (ofRequests requests).stats.Fit := by
  have painted : (ofRequests requests).primitives.length ≤
      (requests.flatMap Command.primitives).length := by
    rw [(same_ofRequests requests).length_eq]
    exact List.length_filter_le ..
  have calls := length_le_of_filled (batched_empty.foldl_add requests).1.filled
  have some : ∀ {α : Type} (read : Primitive → Option α),
      ((ofRequests requests).primitives.filterMap read).length < UInt32.size := fun read =>
    Nat.lt_of_le_of_lt (Nat.le_trans (List.length_filterMap_le ..) painted) few
  rw [stats_eq]
  exact ⟨some _, some _, some _, Nat.lt_of_le_of_lt (Nat.le_trans calls painted) few⟩

/-- Any requests are painted in their order, with nothing added and nothing left out but empty
rectangles and empty texts; a rectangle keeps its depth as a number. No batch is empty, and no two
neighbours could be one batch. The quads, the texts and the statistics tell of just what is
painted, and there is one call for each command. -/
theorem paints_requests_in_order (requests : List Command) :
    let list := ofRequests requests
    let shown := (requests.flatMap Command.primitives).filter Primitive.shows
    List.Forall₂ Primitive.Same list.primitives shown ∧
      (∀ command ∈ list.commands, command.primitives ≠ []) ∧
      (list.commands.IsChain fun first second => ¬ first.Together second) ∧
      list.quads = shown.filterMap Primitive.quad? ∧
      list.labels = shown.filterMap Primitive.label? ∧
      list.stats =
        { quads := (shown.filterMap Primitive.quad?).length
          solids := (shown.filterMap Primitive.rect?).length
          texts := (shown.filterMap Primitive.label?).length
          calls := list.commands.length } := by
  intro list shown
  have batched : list.Batched := (batched_empty.foldl_add requests).1
  have same : List.Forall₂ Primitive.Same list.primitives shown := same_ofRequests requests
  have sameQuads := Primitive.filterMap_eq_of_same Primitive.quad?_eq_of_same same
  have sameRects := Primitive.filterMap_eq_of_same Primitive.rect?_eq_of_same same
  have sameLabels := Primitive.filterMap_eq_of_same Primitive.label?_eq_of_same same
  refine ⟨same, batched.filled, batched.maximal, ?_, ?_, ?_⟩
  · rw [quads_eq_filterMap, sameQuads]
  · rw [labels_eq_filterMap, sameLabels]
  · rw [stats_eq, sameQuads, sameRects, sameLabels]

end DrawList

end Handbook
