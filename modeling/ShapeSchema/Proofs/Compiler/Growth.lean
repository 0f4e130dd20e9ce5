import ShapeSchema.Proofs.Registry
import ShapeSchema.Schema.Compiler

/-!
# `ShapeSchema.Proofs.Compiler.Growth`: a compiler only grows

Compiling a shape appends to the arena, to the index and to the diagnostics, and what stood there
when it began is still there when it ends (`compileWithin_grows`). Nested compilations overwrite
places in the arena, but only places that they took themselves.

`Outcome` lists the six ways in which a compilation can end. The proofs about the compiler go
through these cases and do not open `compileWithin` again, and what becomes of the slots of a shape
they take from `fillSlots_cons_ok`, `fillSlots_cons_error`, `lower_ok` and `lower_error`.

A failed compilation cuts the three lists off at its mark. Because they only grew, what is left is
exactly what there was: `compileWithin_error` says that a failure changes the registry and nothing
else.
-/

set_option autoImplicit false

namespace ShapeSchema.Compiler

/-! ### The outcomes of a compilation -/

/-- The compiler that goes on to the slots of a shape: the registry holds the shape, and the shape
has its place. -/
def enter (c : Compiler) (registry : Registry) (id : String) : Compiler :=
  ({ c with registry }.reserve id).2

/-- A shape that is entered leaves the registry that it was found in. -/
@[simp] theorem enter_registry (c : Compiler) (registry : Registry) (id : String) :
    (c.enter registry id).registry = registry := rfl

/-- The place of an entered shape is the next one, and holds a forward node. -/
@[simp] theorem enter_nodes (c : Compiler) (registry : Registry) (id : String) :
    (c.enter registry id).nodes = c.nodes.push (.forward id) := rfl

/-- The index has an entered id with that place. -/
@[simp] theorem enter_index (c : Compiler) (registry : Registry) (id : String) :
    (c.enter registry id).index = c.index.insert id ⟨c.nodes.size⟩ := rfl

/-- Entering a shape reports nothing. -/
@[simp] theorem enter_diagnostics (c : Compiler) (registry : Registry) (id : String) :
    (c.enter registry id).diagnostics = c.diagnostics := rfl

/-- How a compilation of `id` can go: the id is indexed, or it leads nowhere, or its kind has no
schema, or the limit on nesting is met, or the shape cannot be lowered, or its node is built. -/
inductive Outcome : Nat → Compiler → String → Except Stop Ref × Compiler → Prop
  | hit {depth : Nat} {c : Compiler} {id : String} {ref : Ref}
      (indexed : c.index.get? id = some ref) : Outcome depth c id (.ok ref, c)
  | missing {depth : Nat} {c : Compiler} {id : String} {e : ModelError}
      (unindexed : c.index.get? id = none) (notFound : c.registry.resolve id = .error e) :
      Outcome depth c id (.error (.error e), c)
  | unsupported {depth : Nat} {c : Compiler} {id kind : String} {shape : Shape}
      {registry : Registry} (unindexed : c.index.get? id = none)
      (resolved : c.registry.resolve id = .ok (shape, registry))
      (unknown : shape.kind = .unsupported kind) :
      Outcome depth c id (.error (.error (.unsupportedShape id kind)), { c with registry })
  | tooDeep {c : Compiler} {id : String} {shape : Shape} {registry : Registry}
      (unindexed : c.index.get? id = none)
      (resolved : c.registry.resolve id = .ok (shape, registry))
      (supported : shape.kind.isSupported = true) :
      Outcome 0 c id (.error .tooDeep, { c with registry })
  | failed {depth : Nat} {c final : Compiler} {id : String} {shape : Shape} {registry : Registry}
      {stop : Stop} (unindexed : c.index.get? id = none)
      (resolved : c.registry.resolve id = .ok (shape, registry))
      (supported : shape.kind.isSupported = true)
      (lowered : lower (compileWithin depth) (c.enter registry id) shape = (.error stop, final)) :
      Outcome (depth + 1) c id (.error stop, final.rollback c.mark)
  | built {depth : Nat} {c final : Compiler} {id : String} {shape : Shape} {registry : Registry}
      {node : Node} {diagnostics : List Diagnostic} (unindexed : c.index.get? id = none)
      (resolved : c.registry.resolve id = .ok (shape, registry))
      (supported : shape.kind.isSupported = true)
      (lowered : lower (compileWithin depth) (c.enter registry id) shape =
        (.ok (node, diagnostics), final)) :
      Outcome (depth + 1) c id
        (.ok ⟨c.nodes.size⟩, final.complete ⟨c.nodes.size⟩ node diagnostics)

section Equations

variable {depth : Nat} {c : Compiler} {id : String} {shape : Shape} {registry : Registry}

/-- An indexed id answers at once. -/
theorem compileWithin_of_indexed {ref : Ref} (indexed : c.index.get? id = some ref) :
    compileWithin depth c id = (.ok ref, c) := by
  cases depth <;> simp only [compileWithin, indexed]

/-- An id without a shape is answered with the error of its look-up, and nothing is changed. -/
theorem compileWithin_of_missing {e : ModelError} (unindexed : c.index.get? id = none)
    (notFound : c.registry.resolve id = .error e) :
    compileWithin depth c id = (.error (.error e), c) := by
  cases depth <;> simp only [compileWithin, unindexed, notFound]

/-- A shape of a kind without a schema is answered with its tag. The look-up may have let the
registry grow. -/
theorem compileWithin_of_unsupported {kind : String} (unindexed : c.index.get? id = none)
    (resolved : c.registry.resolve id = .ok (shape, registry))
    (unknown : shape.kind = .unsupported kind) :
    compileWithin depth c id =
      (.error (.error (.unsupportedShape id kind)), { c with registry }) := by
  cases depth <;> simp only [compileWithin, unindexed, resolved, unknown]

/-- A supported kind is none of the unsupported ones. -/
theorem kind_ne_unsupported (supported : shape.kind.isSupported = true) (kind : String) :
    shape.kind ≠ .unsupported kind := by
  intro hkind
  rw [hkind] at supported
  cases supported

/-- A kind that is not supported is kept as its tag. -/
theorem exists_unsupported (unsupported : shape.kind.isSupported = false) :
    ∃ kind, shape.kind = .unsupported kind := by
  cases hkind : shape.kind with
  | unsupported kind => exact ⟨kind, rfl⟩
  | _ =>
    rw [hkind] at unsupported
    cases unsupported

/-- At the limit of nesting a shape is looked up and no place is taken. -/
theorem compileWithin_zero (unindexed : c.index.get? id = none)
    (resolved : c.registry.resolve id = .ok (shape, registry))
    (supported : shape.kind.isSupported = true) :
    compileWithin 0 c id = (.error .tooDeep, { c with registry }) := by
  have known := kind_ne_unsupported supported
  simp only [compileWithin, unindexed, resolved]

/-- The step of the recursion: take a place, lower the shape, then put the node into the place or
give everything back. -/
theorem compileWithin_succ (unindexed : c.index.get? id = none)
    (resolved : c.registry.resolve id = .ok (shape, registry))
    (supported : shape.kind.isSupported = true) :
    compileWithin (depth + 1) c id =
      match lower (compileWithin depth) (c.enter registry id) shape with
      | (.error stop, final) => (.error stop, final.rollback c.mark)
      | (.ok (node, diagnostics), final) =>
        (.ok ⟨c.nodes.size⟩, final.complete ⟨c.nodes.size⟩ node diagnostics) := by
  have known := kind_ne_unsupported supported
  simp only [compileWithin, unindexed, resolved]
  rfl

end Equations

/-- Every compilation has one of the outcomes. -/
theorem compileWithin_outcome (depth : Nat) (c : Compiler) (id : String) :
    Outcome depth c id (compileWithin depth c id) := by
  -- The cases are those of the definition, taken in the order of its checks.
  cases indexed : c.index.get? id with
  | some ref =>
    rw [compileWithin_of_indexed indexed]
    exact .hit indexed
  | none =>
    cases resolved : c.registry.resolve id with
    | error e =>
      rw [compileWithin_of_missing indexed resolved]
      exact .missing indexed resolved
    | ok found =>
      obtain ⟨shape, registry⟩ := found
      cases supported : shape.kind.isSupported with
      | false =>
        obtain ⟨kind, unknown⟩ := exists_unsupported supported
        rw [compileWithin_of_unsupported indexed resolved unknown]
        exact .unsupported indexed resolved unknown
      | true =>
        cases depth with
        | zero =>
          rw [compileWithin_zero indexed resolved supported]
          exact .tooDeep indexed resolved supported
        | succ depth =>
          rw [compileWithin_succ indexed resolved supported]
          cases lowered : lower (compileWithin depth) (c.enter registry id) shape with
          | mk answer final =>
            cases answer with
            | error stop => exact .failed indexed resolved supported lowered
            | ok built =>
              obtain ⟨node, diagnostics⟩ := built
              exact .built indexed resolved supported lowered

/-! ### Slots, one after the other -/

section Slots

variable {visit : Compiler → String → Except Stop Ref × Compiler} {c c' : Compiler} {slot : Slot}
  {slots : List Slot} {shape : Shape} {stop : Stop}

/-- Slots are all filled if the first one is, and the others from where that left the compiler. -/
theorem fillSlots_cons_ok {refs : List Ref}
    (filled : fillSlots visit c (slot :: slots) = (.ok refs, c')) :
    ∃ ref between rest, fillSlot visit c slot = (.ok ref, between) ∧
      fillSlots visit between slots = (.ok rest, c') ∧ refs = ref :: rest := by
  rw [fillSlots] at filled
  cases head : fillSlot visit c slot with
  | mk answer between =>
    rw [head] at filled
    cases answer with
    | error stop => cases filled
    | ok ref =>
      dsimp only at filled
      cases tail : fillSlots visit between slots with
      | mk answer final =>
        rw [tail] at filled
        cases answer with
        | error stop => cases filled
        | ok rest =>
          cases filled
          exact ⟨ref, between, rest, rfl, tail, rfl⟩

/-- If slots are not all filled, it is because of the first one or of one that comes later. -/
theorem fillSlots_cons_error (stopped : fillSlots visit c (slot :: slots) = (.error stop, c')) :
    fillSlot visit c slot = (.error stop, c') ∨
      ∃ ref between, fillSlot visit c slot = (.ok ref, between) ∧
        fillSlots visit between slots = (.error stop, c') := by
  rw [fillSlots] at stopped
  cases head : fillSlot visit c slot with
  | mk answer between =>
    rw [head] at stopped
    cases answer with
    | error stop =>
      cases stopped
      exact .inl rfl
    | ok ref =>
      dsimp only at stopped
      cases tail : fillSlots visit between slots with
      | mk answer final =>
        rw [tail] at stopped
        cases answer with
        | error stop =>
          cases stopped
          exact .inr ⟨ref, between, rfl, tail⟩
        | ok rest => cases stopped

/-- There is one reference for each slot. -/
theorem length_of_fillSlots {refs : List Ref} (filled : fillSlots visit c slots = (.ok refs, c')) :
    refs.length = slots.length := by
  induction slots generalizing c refs with
  | nil =>
    cases filled
    rfl
  | cons slot slots ih =>
    obtain ⟨ref, between, rest, -, tail, rfl⟩ := fillSlots_cons_ok filled
    exact congrArg Nat.succ (ih tail)

/-- A shape that was lowered has all its slots filled, and its node is made of their references. -/
theorem lower_ok {built : Node × List Diagnostic} (h : lower visit c shape = (.ok built, c')) :
    ∃ refs, fillSlots visit c shape.slots = (.ok refs, c') ∧ shape.node refs = .ok built := by
  rw [lower] at h
  generalize fillSlots visit c shape.slots = filled at h ⊢
  obtain ⟨answer, final⟩ := filled
  cases answer with
  | error stop => cases h
  | ok refs =>
    obtain ⟨hnode, rfl⟩ := Prod.mk.inj h
    refine ⟨refs, rfl, ?_⟩
    cases hrefs : shape.node refs with
    | error defect =>
      rw [hrefs] at hnode
      cases hnode
    | ok built' =>
      rw [hrefs] at hnode
      cases hnode
      rfl

/-- A shape that was not lowered has a slot that was not filled, or its constraints are malformed.
-/
theorem lower_error (h : lower visit c shape = (.error stop, c')) :
    fillSlots visit c shape.slots = (.error stop, c') ∨
      ∃ refs defect, fillSlots visit c shape.slots = (.ok refs, c') ∧
        shape.node refs = .error defect ∧ stop = .error (.malformed defect) := by
  rw [lower] at h
  generalize fillSlots visit c shape.slots = filled at h ⊢
  obtain ⟨answer, final⟩ := filled
  cases answer with
  | error stop =>
    cases h
    exact .inl rfl
  | ok refs =>
    obtain ⟨hnode, rfl⟩ := Prod.mk.inj h
    cases hrefs : shape.node refs with
    | error defect =>
      rw [hrefs] at hnode
      cases hnode
      exact .inr ⟨refs, defect, rfl, hrefs, rfl⟩
    | ok built =>
      rw [hrefs] at hnode
      cases hnode

end Slots

/-! ### Growth -/

/-- The second compiler is the first with something appended to its lists. The references that
were added to the index lead behind the old end of the arena. -/
structure Grows (c c' : Compiler) : Prop where
  registry : c.registry.Grows c'.registry
  nodes : c.nodes.toList <+: c'.nodes.toList
  index : ∃ added, c'.index.entries = c.index.entries ++ added ∧
    ∀ e ∈ added, c.nodes.size ≤ e.2.index
  diagnostics : c.diagnostics <+: c'.diagnostics

namespace Grows

variable {c c' c'' : Compiler}

/-- A compiler grows into itself by nothing. -/
theorem refl (c : Compiler) : c.Grows c :=
  ⟨.refl _, List.prefix_rfl, ⟨[], by simp⟩, List.prefix_rfl⟩

/-- Growing makes no arena smaller. -/
theorem size_le (h : c.Grows c') : c.nodes.size ≤ c'.nodes.size := by
  have hlen := h.nodes.length_le
  rwa [Array.length_toList, Array.length_toList] at hlen

/-- Growth after growth is growth. -/
theorem trans (first : c.Grows c') (second : c'.Grows c'') : c.Grows c'' := by
  obtain ⟨added, hadded, fresh⟩ := first.index
  obtain ⟨added', hadded', fresh'⟩ := second.index
  refine ⟨first.registry.trans second.registry, first.nodes.trans second.nodes,
    ⟨added ++ added', ?_, ?_⟩, first.diagnostics.trans second.diagnostics⟩
  · rw [hadded', hadded, List.append_assoc]
  · intro e he
    rcases List.mem_append.1 he with h | h
    · exact fresh e h
    · exact Nat.le_trans first.size_le (fresh' e h)

/-- A reference that was handed out for a shape stays the reference of that shape. -/
theorem get? (h : c.Grows c') {id : String} {ref : Ref} (found : c.index.get? id = some ref) :
    c'.index.get? id = some ref := by
  obtain ⟨added, hadded, -⟩ := h.index
  exact OrderedMap.get?_of_append hadded found

/-- A place in the arena keeps its node. -/
theorem node (h : c.Grows c') {i : Nat} (hi : i < c.nodes.size) :
    c'.nodes[i]? = c.nodes[i]? := by
  obtain ⟨added, hadded⟩ := h.nodes
  rw [← Array.getElem?_toList, ← Array.getElem?_toList, ← hadded,
    List.getElem?_append_left (by rwa [Array.length_toList])]

/-- Only the registry has changed: no place was taken. -/
theorem of_registry {registry : Registry} (h : c.registry.Grows registry) :
    c.Grows { c with registry } :=
  ⟨h, List.prefix_rfl, ⟨[], by simp⟩, List.prefix_rfl⟩

/-- A node that is appended is growth. -/
theorem push (c : Compiler) (node : Node) : c.Grows (c.push node).2 := by
  refine ⟨.refl _, ?_, ⟨[], by simp [Compiler.push]⟩, List.prefix_rfl⟩
  rw [Compiler.push, Array.toList_push]
  exact List.prefix_append _ _

/-- So is the place of a shape that was not indexed. -/
theorem enter {registry : Registry} {id : String} (unindexed : c.index.get? id = none)
    (h : c.registry.Grows registry) : c.Grows (c.enter registry id) := by
  refine ⟨h, ?_, ⟨[(id, ⟨c.nodes.size⟩)], ?_, ?_⟩, List.prefix_rfl⟩
  · rw [enter_nodes, Array.toList_push]
    exact List.prefix_append _ _
  · rw [enter_index, OrderedMap.entries_insert _ unindexed]
  · intro e he
    have new : e = (id, ⟨c.nodes.size⟩) := List.mem_singleton.1 he
    subst new
    exact Nat.le_refl _

/-- Putting a node into a place that was taken since leaves what was there before. -/
theorem complete (h : c.Grows c') {ref : Ref} (taken : c.nodes.size ≤ ref.index) (node : Node)
    (diagnostics : List Diagnostic) : c.Grows (c'.complete ref node diagnostics) := by
  refine ⟨h.registry, ?_, h.index, h.diagnostics.trans (List.prefix_append _ _)⟩
  -- The place is in the part that was appended, so the write stays in that part.
  obtain ⟨added, hadded⟩ := h.nodes
  refine ⟨added.set (ref.index - c.nodes.size) node, ?_⟩
  rw [Compiler.complete, Array.toList_setIfInBounds, ← hadded,
    List.set_append_right _ _ (by rwa [Array.length_toList]), Array.length_toList]

/-- What came after the mark is cut off, and nothing else: only the registry has changed. -/
theorem rollback_eq (h : c.Grows c') :
    c'.rollback c.mark = { c with registry := c'.registry } := by
  obtain ⟨added, hadded, -⟩ := h.index
  have hnodes : c'.nodes.take c.nodes.size = c.nodes := by
    -- The arena is an array, and what is known of it is a prefix of lists.
    apply Array.toList_inj.1
    rw [Array.take_eq_extract, Array.toList_extract, List.extract_eq_take_drop, List.drop_zero,
      Nat.sub_zero, ← Array.length_toList]
    exact (List.prefix_iff_eq_take.1 h.nodes).symm
  have hindex : c'.index.take c.index.size = c.index := by
    apply OrderedMap.ext
    simp only [OrderedMap.take, OrderedMap.size, hadded, List.take_left']
  have hdiagnostics : c'.diagnostics.take c.diagnostics.length = c.diagnostics :=
    (List.prefix_iff_eq_take.1 h.diagnostics).symm
  rw [rollback, mark, hnodes, hindex, hdiagnostics]

end Grows

/-! ### What a run keeps -/

section Slots

variable {visit : Compiler → String → Except Stop Ref × Compiler}

/-- Filling one slot grows the compiler if visits do. -/
theorem fillSlot_grows (visits : ∀ (c : Compiler) (id : String), c.Grows (visit c id).2)
    (c : Compiler) (slot : Slot) : c.Grows (fillSlot visit c slot).2 := by
  cases slot with
  | shape id => exact visits c id
  | plainString => exact Grows.push c .plainString

/-- Filling slots grows the compiler, up to the first error or to the end. -/
theorem fillSlots_grows (visits : ∀ (c : Compiler) (id : String), c.Grows (visit c id).2) :
    ∀ (slots : List Slot) (c : Compiler), c.Grows (fillSlots visit c slots).2 := by
  intro slots
  -- The first slot grows the compiler, and the rest go on from there.
  induction slots with
  | nil => exact Grows.refl
  | cons slot slots ih =>
    intro c
    have first := fillSlot_grows visits c slot
    rw [fillSlots]
    generalize fillSlot visit c slot = head at first
    obtain ⟨answer, c'⟩ := head
    cases answer with
    | error stop => exact first
    | ok ref =>
      have rest := ih c'
      dsimp only
      generalize fillSlots visit c' slots = tail at rest
      obtain ⟨answer, c''⟩ := tail
      cases answer with
      | error stop => exact first.trans rest
      | ok refs => exact first.trans rest

/-- The same of a run that is given by its answer and its end. -/
theorem grows_of_fillSlots (visits : ∀ (c : Compiler) (id : String), c.Grows (visit c id).2)
    {slots : List Slot} {c c' : Compiler} {answer : Except Stop (List Ref)}
    (filled : fillSlots visit c slots = (answer, c')) : c.Grows c' := by
  have grown := fillSlots_grows visits slots c
  rwa [filled] at grown

/-- If slots are not all filled, the visit for a target has stopped, and it began with a compiler
that had grown. -/
theorem exists_stopped_of_fillSlots
    (visits : ∀ (c : Compiler) (id : String), c.Grows (visit c id).2)
    {slots : List Slot} {c c' : Compiler} {stop : Stop}
    (stopped : fillSlots visit c slots = (.error stop, c')) :
    ∃ between target, c.Grows between ∧ .shape target ∈ slots ∧
      (visit between target).1 = .error stop := by
  induction slots generalizing c with
  | nil => cases stopped
  | cons slot slots ih =>
    rcases fillSlots_cons_error stopped with head | ⟨ref, between, head, tail⟩
    · cases slot with
      | shape target => exact ⟨c, target, .refl c, List.mem_cons_self, congrArg Prod.fst head⟩
      | plainString => cases head
    · have grown := fillSlot_grows visits c slot
      rw [head] at grown
      obtain ⟨later, target, further, mem, stopped⟩ := ih tail
      exact ⟨later, target, grown.trans further, List.mem_cons_of_mem _ mem, stopped⟩

/-- Lowering a shape leaves the compiler as filling its slots does. -/
theorem lower_snd (c : Compiler) (shape : Shape) :
    (lower visit c shape).2 = (fillSlots visit c shape.slots).2 := by
  rw [lower]
  generalize fillSlots visit c shape.slots = filled
  obtain ⟨answer, c'⟩ := filled
  cases answer with
  | error stop => rfl
  | ok refs => rfl

/-- From the moment its shape is looked up until its slots are filled, a compilation only grows the
compiler. -/
theorem lower_grows (visits : ∀ (c : Compiler) (id : String), c.Grows (visit c id).2)
    {c final : Compiler} {id : String} {shape : Shape} {registry : Registry}
    {answer : Except Stop (Node × List Diagnostic)} (unindexed : c.index.get? id = none)
    (resolved : c.registry.resolve id = .ok (shape, registry))
    (lowered : lower visit (c.enter registry id) shape = (answer, final)) : c.Grows final := by
  have filled := fillSlots_grows visits shape.slots (c.enter registry id)
  rw [← lower_snd, lowered] at filled
  exact (Grows.enter unindexed (Registry.resolve_ok resolved).2.2).trans filled

end Slots

/-- Each outcome of a compilation grows the compiler if the nested compilations do. -/
theorem Outcome.grows {depth : Nat} {c : Compiler} {id : String}
    {result : Except Stop Ref × Compiler} (h : Outcome depth c id result)
    (nested : ∀ d < depth, ∀ (c : Compiler) (id : String), c.Grows (compileWithin d c id).2) :
    c.Grows result.2 := by
  cases h with
  | hit _ => exact .refl c
  | missing _ _ => exact .refl c
  | unsupported _ resolved _ => exact .of_registry (Registry.resolve_ok resolved).2.2
  | tooDeep _ resolved _ => exact .of_registry (Registry.resolve_ok resolved).2.2
  | failed unindexed resolved _ lowered =>
    have grown := lower_grows (nested _ (Nat.lt_succ_self _)) unindexed resolved lowered
    -- What the nested compilations appended is cut off again, prelude shapes apart.
    dsimp only
    rw [grown.rollback_eq]
    exact .of_registry grown.registry
  | @built _ _ _ _ _ _ node diagnostics unindexed resolved _ lowered =>
    have grown := lower_grows (nested _ (Nat.lt_succ_self _)) unindexed resolved lowered
    exact grown.complete (Nat.le_refl _) node diagnostics

/-- Compiling grows the compiler, whatever comes of it. -/
theorem compileWithin_grows (depth : Nat) :
    ∀ (c : Compiler) (id : String), c.Grows (compileWithin depth c id).2 := by
  induction depth using Nat.strongRecOn with
  | ind depth ih =>
    intro c id
    exact (compileWithin_outcome depth c id).grows ih

/-- A failed compilation leaves the compiler as it was, but for the registry. -/
theorem compileWithin_error {depth : Nat} {c c' : Compiler} {id : String} {stop : Stop}
    (h : compileWithin depth c id = (.error stop, c')) :
    c' = { c with registry := c'.registry } := by
  have outcome := compileWithin_outcome depth c id
  rw [h] at outcome
  -- The other outcomes answer with a reference.
  cases outcome with
  | missing _ _ => rfl
  | unsupported _ _ _ => rfl
  | tooDeep _ _ _ => rfl
  | failed unindexed resolved _ lowered =>
    exact (lower_grows (compileWithin_grows _) unindexed resolved lowered).rollback_eq

end ShapeSchema.Compiler
