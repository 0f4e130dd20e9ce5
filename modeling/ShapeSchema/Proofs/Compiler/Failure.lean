import ShapeSchema.Proofs.Compiler.Session

/-!
# `ShapeSchema.Proofs.Compiler.Failure`: a failed call leaves no trace

A failed call leaves arena, index and diagnostics as they were; the registry may have gained prelude
shapes (`compile_error`). Those shapes change no later answer. To show it, two compilers are
`Alike` when they differ at most in which prelude shapes their registries already hold.
`compileWithin_alike` runs the same compilation on both: the answers are equal, and the compilers
are alike again.

A session with failed calls and the same session without them keep alike compilers throughout, so
every call that is in both shows its caller the same (`failed_calls_leave_no_trace`).
-/

set_option autoImplicit false

namespace ShapeSchema

/-- Registries that agree look an id up with the same result, and agree afterwards. -/
theorem Registry.Agrees.resolve {r r' s : Registry} {id : String} {shape : Shape}
    (h : r.Agrees r') (found : r.resolve id = .ok (shape, s)) :
    ∃ s', r'.resolve id = .ok (shape, s') ∧ s.Agrees s' := by
  obtain ⟨hshape, -, grown⟩ := resolve_ok found
  rw [h.shape? id] at hshape
  obtain ⟨s', found'⟩ := exists_resolve hshape
  exact ⟨s', found', h.grows grown (resolve_ok found').2.2⟩

namespace Compiler

/-! ### Compilers that answer alike -/

/-- The compilers differ at most in the prelude shapes that their registries hold already. -/
structure Alike (c d : Compiler) : Prop where
  registry : c.registry.Agrees d.registry
  nodes : c.nodes = d.nodes
  index : c.index = d.index
  diagnostics : c.diagnostics = d.diagnostics

/-- The results of one computation on two compilers: equal answers, and compilers alike. -/
structure SameResult {α : Type} (first second : α × Compiler) : Prop where
  answer : first.1 = second.1
  alike : first.2.Alike second.2

namespace Alike

variable {c d : Compiler}

/-- Compilers that are alike may each get another registry, as long as the two agree. -/
theorem of_registry (h : c.Alike d) {r s : Registry} (agrees : r.Agrees s) :
    Alike { c with registry := r } { d with registry := s } :=
  ⟨agrees, h.nodes, h.index, h.diagnostics⟩

/-- A node takes the same place in both arenas. -/
theorem push (h : c.Alike d) (node : Node) :
    SameResult (c.push node) (d.push node) := by
  refine ⟨?_, h.registry, ?_, h.index, h.diagnostics⟩
  · rw [Compiler.push, Compiler.push, h.nodes]
  · rw [Compiler.push, Compiler.push, h.nodes]

/-- A shape takes the same place in both compilers. -/
theorem enter (h : c.Alike d) {r s : Registry} (agrees : r.Agrees s) (id : String) :
    Alike (c.enter r id) (d.enter s id) := by
  refine ⟨agrees, ?_, ?_, h.diagnostics⟩
  · rw [enter_nodes, enter_nodes, h.nodes]
  · rw [enter_index, enter_index, h.nodes, h.index]

/-- They are marked at the same place. -/
theorem mark (h : c.Alike d) : c.mark = d.mark := by
  rw [Compiler.mark, Compiler.mark, h.nodes, h.index, h.diagnostics]

/-- Cut off at one mark, they are alike again. -/
theorem rollback (h : c.Alike d) (m : Mark) : (c.rollback m).Alike (d.rollback m) := by
  refine ⟨h.registry, ?_, ?_, ?_⟩
  · rw [Compiler.rollback, Compiler.rollback, h.nodes]
  · rw [Compiler.rollback, Compiler.rollback, h.index]
  · rw [Compiler.rollback, Compiler.rollback, h.diagnostics]

/-- A node may be put into the same place of both. -/
theorem complete (h : c.Alike d) (ref : Ref) (node : Node) (diagnostics : List Diagnostic) :
    (c.complete ref node diagnostics).Alike (d.complete ref node diagnostics) := by
  refine ⟨h.registry, ?_, h.index, ?_⟩
  · rw [Compiler.complete, Compiler.complete, h.nodes]
  · rw [Compiler.complete, Compiler.complete, h.diagnostics]

end Alike

section Slots

variable {visit : Compiler → String → Except Stop Ref × Compiler}

/-- A slot is filled alike if visits are alike. -/
theorem fillSlot_alike
    (same : ∀ {c d : Compiler}, c.Alike d → ∀ id, SameResult (visit c id) (visit d id))
    {c d : Compiler} (h : c.Alike d) (slot : Slot) :
    SameResult (fillSlot visit c slot) (fillSlot visit d slot) := by
  cases slot with
  | shape id => exact same h id
  | plainString =>
    have pushed := h.push .plainString
    exact ⟨congrArg Except.ok pushed.answer, pushed.alike⟩

/-- Slots are filled alike, up to the same error or to the end. -/
theorem fillSlots_alike
    (same : ∀ {c d : Compiler}, c.Alike d → ∀ id, SameResult (visit c id) (visit d id))
    (slots : List Slot) :
    ∀ {c d : Compiler}, c.Alike d →
      SameResult (fillSlots visit c slots) (fillSlots visit d slots) := by
  induction slots with
  | nil =>
    intro c d h
    exact ⟨rfl, h⟩
  | cons slot slots ih =>
    -- Both compilers change from slot to slot, so the induction is over all pairs that are alike.
    intro c d h
    have head := fillSlot_alike same h slot
    rw [fillSlots, fillSlots]
    generalize fillSlot visit c slot = first at head ⊢
    generalize fillSlot visit d slot = second at head ⊢
    obtain ⟨answer, c'⟩ := first
    obtain ⟨answer', d'⟩ := second
    obtain ⟨rfl, alike⟩ := head
    cases answer with
    | error stop => exact ⟨rfl, alike⟩
    | ok ref =>
      have tail := ih alike
      dsimp only
      generalize fillSlots visit c' slots = first at tail ⊢
      generalize fillSlots visit d' slots = second at tail ⊢
      obtain ⟨answer, c''⟩ := first
      obtain ⟨answer', d''⟩ := second
      obtain ⟨rfl, alike⟩ := tail
      cases answer with
      | error stop => exact ⟨rfl, alike⟩
      | ok refs => exact ⟨rfl, alike⟩

/-- A shape is lowered alike if visits are alike. -/
theorem lower_alike
    (same : ∀ {c d : Compiler}, c.Alike d → ∀ id, SameResult (visit c id) (visit d id))
    {c d : Compiler} (h : c.Alike d) (shape : Shape) :
    SameResult (lower visit c shape) (lower visit d shape) := by
  have filled := fillSlots_alike same shape.slots h
  rw [lower, lower]
  generalize fillSlots visit c shape.slots = first at filled ⊢
  generalize fillSlots visit d shape.slots = second at filled ⊢
  obtain ⟨answer, c'⟩ := first
  obtain ⟨answer', d'⟩ := second
  obtain ⟨rfl, alike⟩ := filled
  cases answer with
  | error stop => exact ⟨rfl, alike⟩
  | ok refs => exact ⟨rfl, alike⟩

end Slots

/-- The step: if the compilations inside are alike, then so is the one around them. -/
theorem compileWithin_succ_alike {depth : Nat}
    (same : ∀ {c d : Compiler}, c.Alike d → ∀ id,
      SameResult (compileWithin depth c id) (compileWithin depth d id))
    {c d : Compiler} (h : c.Alike d) {id : String} {shape : Shape} {registry : Registry}
    (unindexed : c.index.get? id = none) (resolved : c.registry.resolve id = .ok (shape, registry))
    (supported : shape.kind.isSupported = true) :
    SameResult (compileWithin (depth + 1) c id) (compileWithin (depth + 1) d id) := by
  obtain ⟨registry', resolved', agrees⟩ := h.registry.resolve resolved
  have unindexed' : d.index.get? id = none := h.index ▸ unindexed
  have lowered := lower_alike same (h.enter agrees id) shape
  rw [compileWithin_succ unindexed resolved supported,
    compileWithin_succ unindexed' resolved' supported, h.mark, h.nodes]
  generalize lower (compileWithin depth) (c.enter registry id) shape = first at lowered ⊢
  generalize lower (compileWithin depth) (d.enter registry' id) shape = second at lowered ⊢
  obtain ⟨answer, final⟩ := first
  obtain ⟨answer', final'⟩ := second
  obtain ⟨rfl, alike⟩ := lowered
  -- A failure takes both back to the same mark, and a success completes the same place.
  cases answer with
  | error stop => exact ⟨rfl, alike.rollback _⟩
  | ok built => exact ⟨rfl, alike.complete _ _ _⟩

/-- Compilers that are alike compile a shape with the same answer, and are alike again. -/
theorem compileWithin_alike (depth : Nat) : ∀ {c d : Compiler}, c.Alike d → ∀ id,
    SameResult (compileWithin depth c id) (compileWithin depth d id) := by
  induction depth using Nat.strongRecOn with
  | ind depth ih =>
    intro c d h id
    generalize hrun : compileWithin depth c id = result
    have outcome := compileWithin_outcome depth c id
    rw [hrun] at outcome
    -- The first compiler's outcome is settled by what the two have in common, so the second one has
    -- it too.
    cases outcome with
    | hit indexed =>
      rw [h.index] at indexed
      rw [compileWithin_of_indexed indexed]
      exact ⟨rfl, h⟩
    | missing unindexed notFound =>
      rw [h.index] at unindexed
      rw [Registry.resolve_eq_error_iff, h.registry.shape?,
        ← Registry.resolve_eq_error_iff] at notFound
      rw [compileWithin_of_missing unindexed notFound]
      exact ⟨rfl, h⟩
    | unsupported unindexed resolved unknown =>
      rw [h.index] at unindexed
      obtain ⟨registry', resolved', agrees⟩ := h.registry.resolve resolved
      rw [compileWithin_of_unsupported unindexed resolved' unknown]
      exact ⟨rfl, h.of_registry agrees⟩
    | tooDeep unindexed resolved supported =>
      rw [h.index] at unindexed
      obtain ⟨registry', resolved', agrees⟩ := h.registry.resolve resolved
      rw [compileWithin_zero unindexed resolved' supported]
      exact ⟨rfl, h.of_registry agrees⟩
    | @failed depth _ _ _ _ _ _ unindexed resolved supported lowered
    | @built depth _ _ _ _ _ _ _ unindexed resolved supported lowered =>
      have step := compileWithin_succ_alike (ih depth (Nat.lt_succ_self _)) h unindexed resolved
        supported
      rw [hrun] at step
      exact step

/-- Calls on compilers that are alike answer the same. -/
theorem compile_alike {c d : Compiler} (h : c.Alike d) (id : String) :
    SameResult (c.compile id) (d.compile id) := by
  -- Nesting goes as deep as there are declared shapes, and both registries declare the same.
  have depth : c.registry.nesting = d.registry.nesting :=
    congrArg (· + 1) h.registry.declared
  have same := compileWithin_alike c.registry.nesting h id
  rw [compile_eq, compile_eq, ← depth]
  exact ⟨congrArg (Except.mapError (Stop.toError id)) same.answer, same.alike⟩

/-! ### Sessions with calls left out -/

/-- A call as its caller sees it: the answer, and the nodes, the index and the diagnostics that it
leaves. -/
structure Call where
  id : String
  answer : Except ModelError Ref
  nodes : Array Node
  index : OrderedMap Ref
  diagnostics : List Diagnostic

/-- The calls of a session that goes on from a compiler. -/
def calls (c : Compiler) : List String → List Call
  | [] => []
  | id :: ids =>
    let (answer, c) := c.compile id
    ⟨id, answer, c.nodes, c.index, c.diagnostics⟩ :: c.calls ids

namespace Call

/-- The call has answered with an error. -/
def failed (call : Call) : Bool :=
  match call.answer with
  | .ok _ => false
  | .error _ => true

/-- What is left of a session when failed calls are deleted. `delete` tells for each position
whether a failed call there goes. -/
def deleteFailed (delete : Nat → Bool) : List Call → List Call
  | [] => []
  | call :: calls =>
    let rest := deleteFailed (fun n => delete (n + 1)) calls
    if call.failed && delete 0 then rest else call :: rest

end Call

/-- On compilers that are alike, a session and what is left of it run in step. -/
theorem calls_alike (ids : List String) : ∀ {c d : Compiler} (delete : Nat → Bool), c.Alike d →
    let kept := Call.deleteFailed delete (c.calls ids)
    d.calls (kept.map Call.id) = kept ∧
      (ids.foldl (fun c id => (c.compile id).2) c).Alike
        ((kept.map Call.id).foldl (fun c id => (c.compile id).2) d) := by
  induction ids with
  | nil =>
    intro c d delete h
    exact ⟨rfl, h⟩
  | cons id ids ih =>
    intro c d delete h
    dsimp only [calls, Call.deleteFailed]
    rw [List.foldl_cons]
    split
    · -- The call failed and is left out: the compiler only gained prelude shapes.
      rename_i gone
      have failure : ∃ e, (c.compile id).1 = .error e := by
        rw [Bool.and_eq_true, Call.failed] at gone
        cases hanswer : (c.compile id).1 with
        | error e => exact ⟨e, rfl⟩
        | ok ref =>
          rw [hanswer] at gone
          exact absurd gone.1 Bool.false_ne_true
      obtain ⟨e, hanswer⟩ := failure
      have after : (c.compile id).2.Alike d := by
        rw [compile_error hanswer]
        exact ⟨(compile_grows c id).registry.agrees.symm.trans h.registry, h.nodes, h.index,
          h.diagnostics⟩
      exact ih _ after
    · -- The call is kept, and the other compiler answers it alike.
      have same := compile_alike h id
      obtain ⟨rest, alike⟩ := ih (fun n => delete (n + 1)) same.alike
      refine ⟨?_, alike⟩
      rw [List.map_cons, calls]
      dsimp only
      rw [rest, ← same.answer, ← same.alike.nodes, ← same.alike.index, ← same.alike.diagnostics]

/-- A failed call is atomic, and deleting failed calls changes nothing that can be seen of the
others.

After any calls, a call that fails leaves the nodes, the index and the diagnostics as they were,
and the registry with prelude shapes appended at most, under ids that the document does not
declare. And whichever failed calls are deleted from a session, the calls that are kept give the
same answers and leave the same nodes, index and diagnostics, one by one and in the model at the
end. -/
theorem failed_calls_leave_no_trace (r : Registry) (ids : List String) :
    (∀ id e, ((session r ids).compile id).1 = .error e →
      let before := session r ids
      let after := (before.compile id).2
      after.nodes = before.nodes ∧ after.index = before.index ∧
        after.diagnostics = before.diagnostics ∧
        after.registry.declared = before.registry.declared ∧
        ∃ added, after.registry.shapes.entries = before.registry.shapes.entries ++ added ∧
          ∀ entry ∈ added, entry.1 ∉ before.registry.declaredIds ∧ Registry.IsPrelude entry) ∧
    ∀ delete : Nat → Bool,
      let kept := Call.deleteFailed delete ((start r).calls ids)
      (start r).calls (kept.map Call.id) = kept ∧
        (session r (kept.map Call.id)).finish.nodes = (session r ids).finish.nodes ∧
        (session r (kept.map Call.id)).finish.index = (session r ids).finish.index ∧
        (session r (kept.map Call.id)).finish.diagnostics = (session r ids).finish.diagnostics := by
  constructor
  · intro id e failure before after
    have rolledBack : after = { before with registry := after.registry } := compile_error failure
    have grown := (compile_grows before id).registry
    obtain ⟨added, hadded, prelude⟩ := grown.shapes
    refine ⟨by rw [rolledBack], by rw [rolledBack], by rw [rolledBack], grown.declared, added,
      hadded, ?_⟩
    intro entry hentry
    refine ⟨?_, prelude entry hentry⟩
    intro declared
    -- A declared id is found, and what a look-up appends was not.
    have known := List.mem_of_mem_take declared
    have unknown := OrderedMap.get?_eq_none_of_append hadded hentry
    exact Entries.lookup_eq_none_iff.1 unknown known
  · intro delete kept
    have same : (start r).Alike (start r) := ⟨(Registry.Grows.refl r).agrees, rfl, rfl, rfl⟩
    obtain ⟨hcalls, alike⟩ := calls_alike ids delete same
    exact ⟨hcalls, alike.nodes.symm, alike.index.symm, alike.diagnostics.symm⟩

/-- A registry with a structure whose second member has a list of a shape that is nowhere. -/
def danglingRegistry : Registry where
  shapes := .ofList
    [("ns#Order",
      { id := "ns#Order"
        kind := .record
        members := .ofList
          [("count", ⟨"smithy.api#Integer", true, []⟩), ("lines", ⟨"ns#Lines", true, []⟩)] }),
     ("ns#Lines",
      { id := "ns#Lines", kind := .list, members := .empty, element := some "ns#Line" }),
     ("ns#Name", { id := "ns#Name", kind := .string, members := .empty })]
  declared := 3

/-- A call that fails two levels down, after a prelude shape was compiled: the registry keeps that
shape, and the compiler keeps nothing else. -/
theorem dangling_call_leaves_no_trace :
    let before := session danglingRegistry ["ns#Name"]
    let after := (before.compile "ns#Order").2
    (∃ e, (before.compile "ns#Order").1 = .error e) ∧ after.nodes = before.nodes ∧
      after.index = before.index ∧ after.diagnostics = before.diagnostics ∧
      after.registry.shapes.keys = before.registry.shapes.keys ++ ["smithy.api#Integer"] := by
  intro before after
  -- Evaluation says that the call fails, and the general law says what is left.
  have failure : ∃ e, (before.compile "ns#Order").1 = .error e := by
    have fails : (match (before.compile "ns#Order").1 with
        | .ok _ => false
        | .error _ => true) = true := by decide +kernel
    cases answer : (before.compile "ns#Order").1 with
    | ok ref =>
      rw [answer] at fails
      cases fails
    | error e => exact ⟨e, rfl⟩
  obtain ⟨e, answer⟩ := failure
  obtain ⟨nodes, index, diagnostics, -⟩ :=
    (failed_calls_leave_no_trace danglingRegistry ["ns#Name"]).1 "ns#Order" e answer
  exact ⟨⟨e, answer⟩, nodes, index, diagnostics, by decide +kernel⟩

end Compiler

end ShapeSchema
