import ShapeSchema.Proofs.Compiler.Session

/-!
# `ShapeSchema.Proofs.Compiler.Invariant`: what the steps keep, a session keeps

A compilation that builds a node takes two steps of its own. First the shape occupies its places in
the arena: one for its node, and behind it one for a plain string if the shape is a map without key
(`Compiler.occupy`). At the end the node is put into the first place (`Compiler.complete`). All
between is the compilation of targets.

So a property that the two steps keep holds after any calls (`Invariant.session`), nested
compilations, cycles and failed calls included. `Invariant` lists what there is to show.
-/

set_option autoImplicit false

namespace ShapeSchema

/-! ### The slots of a shape -/

namespace Shape

/-- The ids that a shape leads to, in the order in which they are compiled. -/
def targets (s : Shape) : List String :=
  s.slots.filterMap fun slot => match slot with
    | .shape id => some id
    | .plainString => none

/-- Only a map without key has a slot for a plain string, and that slot is its first. -/
theorem slots_cases (s : Shape) :
    s.slots = s.targets.map .shape ∧ .plainString ∉ s.slots ∨
      s.slots = .plainString :: s.targets.map .shape ∧ s.kind = .map ∧ s.key = none := by
  unfold targets slots
  cases s.kind with
  | record | resource | union =>
    left
    simp [List.filterMap_map, Function.comp_def]
  | list | set =>
    left
    cases s.element <;> simp
  | map =>
    cases s.key with
    | none =>
      right
      cases s.value <;> simp
    | some key =>
      left
      cases s.value <;> simp
  | _ =>
    left
    simp

end Shape

namespace Compiler

/-! ### The places of a shape -/

/-- The compiler that goes on to the targets of a shape: the shape has its place, and a map without
key has another one for its key. -/
def occupy (c : Compiler) (registry : Registry) (id : String) (shape : Shape) : Compiler :=
  if .plainString ∈ shape.slots then ((c.enter registry id).push .plainString).2
  else c.enter registry id

section Occupy

variable (c : Compiler) (registry : Registry) (id : String) (shape : Shape)

/-- Places are occupied in the registry that the shape was found in. -/
@[simp] theorem occupy_registry : (c.occupy registry id shape).registry = registry := by
  unfold occupy
  split <;> rfl

/-- Only the place of the shape itself is indexed. -/
@[simp] theorem occupy_index :
    (c.occupy registry id shape).index = c.index.insert id ⟨c.nodes.size⟩ := by
  unfold occupy
  split <;> rfl

/-- Occupying places reports nothing. -/
@[simp] theorem occupy_diagnostics : (c.occupy registry id shape).diagnostics = c.diagnostics := by
  unfold occupy
  split <;> rfl

/-- A forward node takes the next place, and the plain string of a map without key the one behind
it. -/
theorem occupy_nodes : (c.occupy registry id shape).nodes =
    if .plainString ∈ shape.slots then (c.nodes.push (.forward id)).push .plainString
    else c.nodes.push (.forward id) := by
  unfold occupy
  split <;> rfl

end Occupy

/-- Filling the slots of a shape that was just entered is to occupy its places and to compile its
targets. The plain string of a map without key has the place behind that of the map. -/
theorem fillSlots_enter {visit : Compiler → String → Except Stop Ref × Compiler}
    {c final : Compiler} {registry : Registry} {id : String} {shape : Shape} {refs : List Ref}
    (filled : fillSlots visit (c.enter registry id) shape.slots = (.ok refs, final)) :
    (∃ named, fillSlots visit (c.occupy registry id shape) (shape.targets.map .shape) =
      (.ok named, final)) ∧
      (.plainString ∈ shape.slots → refs.head? = some ⟨c.nodes.size + 1⟩) := by
  rcases shape.slots_cases with ⟨slots, named⟩ | ⟨slots, -⟩
  · rw [occupy, if_neg named, ← slots]
    exact ⟨⟨refs, filled⟩, fun loose => absurd loose named⟩
  · have loose : .plainString ∈ shape.slots := slots ▸ List.mem_cons_self
    rw [occupy, if_pos loose]
    rw [slots] at filled
    obtain ⟨ref, between, named, head, tail, rfl⟩ := fillSlots_cons_ok filled
    cases head
    refine ⟨⟨named, tail⟩, fun _ => ?_⟩
    rw [List.head?_cons, enter_nodes, Array.size_push]

/-! ### Invariants -/

/-- A property of the ids that are being compiled and of the compiler, which the steps of a
compilation keep. Besides the property itself, a step may use that the arena is sound.

- `grow`: look-ups may add prelude shapes to the registry;
- `occupy`: a shape that is not indexed occupies its places, and its id is being compiled;
- `complete`: the references of all slots are there, and the node made of them is put into the
  place of the shape. -/
structure Invariant (P : List String → Compiler → Prop) : Prop where
  grow {pending : List String} {c : Compiler} {registry : Registry} (holds : P pending c)
    (grown : c.registry.Grows registry) : P pending { c with registry }
  occupy {pending : List String} {c : Compiler} {id : String} {shape : Shape} {registry : Registry}
    (sound : c.Sound pending) (holds : P pending c) (unindexed : c.index.get? id = none)
    (held : registry.get? id = some shape) (grown : c.registry.Grows registry)
    (supported : shape.kind.isSupported = true) :
    P (id :: pending) (c.occupy registry id shape)
  complete {pending : List String} {c : Compiler} {id : String} {shape : Shape} {place : Ref}
    {refs : List Ref} {node : Node} {diagnostics : List Diagnostic}
    (sound : c.Sound (id :: pending)) (holds : P (id :: pending) c)
    (indexed : c.index.get? id = some place) (held : c.registry.get? id = some shape)
    (supported : shape.kind.isSupported = true)
    (filled : List.Forall₂ (Fills c.nodes c.index) shape.slots refs)
    (behind : .plainString ∈ shape.slots → refs.head? = some ⟨place.index + 1⟩)
    (made : shape.node refs = .ok (node, diagnostics)) :
    P pending (c.complete place node diagnostics)

namespace Invariant

variable {P : List String → Compiler → Prop}

/-- What a visit owes when it answers with a reference: the property. -/
def VisitKeeps (P : List String → Compiler → Prop)
    (visit : Compiler → String → Except Stop Ref × Compiler) : Prop :=
  ∀ {pending : List String} {c c' : Compiler} {id : String} {ref : Ref}, c.Sound pending →
    P pending c → visit c id = (.ok ref, c') → P pending c'

/-- Compiling targets one after the other keeps what each compilation keeps. -/
theorem fillSlots {visit : Compiler → String → Except Stop Ref × Compiler}
    (sound : VisitSound visit) (keeps : VisitKeeps P visit) {pending : List String}
    {targets : List String} : ∀ {c c' : Compiler} {refs : List Ref}, c.Sound pending →
      P pending c → fillSlots visit c (targets.map .shape) = (.ok refs, c') → P pending c' := by
  induction targets with
  | nil =>
    intro c c' refs _ holds filled
    obtain ⟨-, rfl⟩ := Prod.mk.inj filled
    exact holds
  | cons target targets ih =>
    intro c c' refs h holds filled
    obtain ⟨ref, between, rest, head, tail, -⟩ := fillSlots_cons_ok filled
    exact ih (sound h head).1 (keeps h holds head) tail

/-- A compilation that answers with a reference keeps an invariant. -/
theorem compileWithin (invariant : Invariant P) (depth : Nat) :
    VisitKeeps P (compileWithin depth) := by
  induction depth using Nat.strongRecOn with
  | ind depth ih =>
    intro pending c c' id ref h holds run
    have outcome := compileWithin_outcome depth c id
    rw [run] at outcome
    cases outcome with
    | hit => exact holds
    | @built depth _ final _ shape registry node diagnostics unindexed resolved supported lowered =>
      obtain ⟨-, held, grown⟩ := Registry.resolve_ok resolved
      obtain ⟨refs, filled, made⟩ := lower_ok lowered
      have entered := h.enter unindexed grown
      obtain ⟨hfinal, hrefs⟩ := fillSlots_sound (compileWithin_grows depth)
        (compileWithin_sound depth) entered filled
      have later := grows_of_fillSlots (compileWithin_grows depth) filled
      obtain ⟨⟨named, targets⟩, behind⟩ := fillSlots_enter filled
      -- The places of the shape leave the arena sound, so its targets can be compiled from there.
      have occupied : (c.occupy registry id shape).Sound (id :: pending) := by
        unfold Compiler.occupy
        split
        · exact entered.push_plainString
        · exact entered
      have kept := fillSlots (compileWithin_sound depth) (ih depth (Nat.lt_succ_self _)) occupied
        (invariant.occupy h holds unindexed held grown supported) targets
      exact invariant.complete hfinal kept
        (later.get? (OrderedMap.get?_insert_self _ unindexed)) (later.registry.get? held) supported
        hrefs behind made

/-- A call from outside keeps an invariant, also if it fails. -/
theorem compile (invariant : Invariant P) {c : Compiler} (h : c.Sound []) (holds : P [] c)
    (id : String) : P [] (c.compile id).2 := by
  cases hanswer : (c.compile id).1 with
  | error e =>
    rw [compile_error hanswer]
    exact invariant.grow holds (compile_grows c id).registry
  | ok ref => exact invariant.compileWithin _ h holds (compileWithin_of_compile_ok hanswer)

/-- What holds before any call and is kept by the steps holds after every call of a session. -/
theorem session (invariant : Invariant P) {r : Registry} (before : P [] (start r))
    (ids : List String) : P [] (Compiler.session r ids) := by
  have both : (Compiler.session r ids).Sound [] ∧ P [] (Compiler.session r ids) :=
    session_induction (P := fun c => c.Sound [] ∧ P [] c) ⟨.start r, before⟩
      (fun _ id h => ⟨compile_sound h.1 id, invariant.compile h.1 h.2 id⟩) ids
  exact both.2

end Invariant

end Compiler

end ShapeSchema
