import ShapeSchema.Proofs.Lists
import ShapeSchema.Proofs.Model.Shape
import ShapeSchema.Proofs.Schema.Success
import ShapeSchema.Schema.Tool

/-!
# `ShapeSchema.Proofs.Schema.Request`: which shape an operation takes

The request of an operation is its declared input only as long as that input is compiled, and an
operation does not have its input compiled: its own node is empty. So the ids of a model are settled
first. They are those that a declared shape leads to, through members, elements, keys and values
(`CompiledModel.mem_ids_iff`); the closure under targets gives one direction, an induction over
nested compilations the other.

Every declared input is therefore honoured (`requestShape?_of_input`), and one from the prelude
exactly if some shape of the document uses it. Otherwise the operation is given the first shape that
is a request by convention, which may be that of another operation (`get_takes_getAllRequest`).
-/

set_option autoImplicit false

namespace ShapeSchema

/-- Some declared shape leads to the id. -/
def Registry.InUse (r : Registry) (id : String) : Prop :=
  ∃ root ∈ r.declaredIds, r.Reaches root id

/-! ### What a compilation indexes -/

namespace Compiler

/-- Filling the slots of a shape indexes only ids that the shape leads to, if the visits do so. -/
theorem reaches_of_fillSlots {r : Registry}
    {visit : Compiler → String → Except Stop Ref × Compiler}
    (grows : ∀ (c : Compiler) (id : String), c.Grows (visit c id).2)
    (visits : ∀ {c c' : Compiler} {target : String} {ref : Ref}, r.Grows c.registry →
      visit c target = (.ok ref, c') →
        ∀ x ∈ c'.index.keys, x ∈ c.index.keys ∨ r.Reaches target x)
    {id : String} {slots : List Slot}
    (led : ∀ target, .shape target ∈ slots → r.Reaches id target) :
    ∀ {c c' : Compiler} {refs : List Ref}, r.Grows c.registry →
      fillSlots visit c slots = (.ok refs, c') →
        ∀ x ∈ c'.index.keys, x ∈ c.index.keys ∨ r.Reaches id x := by
  induction slots with
  | nil =>
    intro c c' refs _ filled x mem
    cases filled
    exact .inl mem
  | cons slot slots ih =>
    intro c c' refs grown filled x mem
    obtain ⟨ref, between, rest, head, tail, -⟩ := fillSlots_cons_ok filled
    have later := fillSlot_grows grows c slot
    rw [head] at later
    have others := ih (fun target slot => led target (List.mem_cons_of_mem _ slot))
      (grown.trans later.registry) tail x mem
    refine others.elim (fun indexed => ?_) .inr
    cases slot with
    | shape target =>
      have chain := led target List.mem_cons_self
      exact (visits grown head x indexed).imp_right chain.trans
    | plainString =>
      -- The plain string of a map without key has a place, but no id.
      cases head
      exact .inl indexed

/-- A compilation indexes only ids that its own id leads to: by induction on the depth, since the
slots of a shape are what the shape leads to at once. -/
theorem reaches_of_compileWithin {r : Registry} (depth : Nat) :
    ∀ {c c' : Compiler} {id : String} {ref : Ref}, r.Grows c.registry →
      compileWithin depth c id = (.ok ref, c') →
        ∀ x ∈ c'.index.keys, x ∈ c.index.keys ∨ r.Reaches id x := by
  induction depth using Nat.strongRecOn with
  | ind depth ih =>
    intro c c' id ref grown run x mem
    have outcome := compileWithin_outcome depth c id
    rw [run] at outcome
    cases outcome with
    | hit => exact .inl mem
    | @built depth _ final _ shape registry node diagnostics unindexed resolved _ lowered =>
      obtain ⟨held, -, grown'⟩ := Registry.resolve_ok resolved
      obtain ⟨refs, filled, -⟩ := lower_ok lowered
      have resolves : r.Resolves id shape := by
        rw [Registry.resolves_iff, ← Registry.shape?_of_grows grown]
        exact held
      -- What a target reaches is reached from the shape through its slot.
      have inside := reaches_of_fillSlots (compileWithin_grows depth)
        (fun {_ _ _ _} => ih depth (Nat.lt_succ_self _))
        (fun target slot => .step .refl resolves slot) (grown.trans grown') filled x mem
      refine inside.elim (fun entered => ?_) .inr
      rw [enter_index, OrderedMap.mem_keys_insert] at entered
      rcases entered with known | rfl
      · exact .inl known
      · exact .inr .refl

/-- A session has indexed only what the ids of its calls lead to. -/
theorem reaches_of_session {r : Registry} {ids : List String} {x : String}
    (indexed : x ∈ (session r ids).index.keys) : ∃ id ∈ ids, r.Reaches id x := by
  induction ids using List.reverseRecOn with
  | nil => cases indexed
  | append_singleton ids id ih =>
    -- On the calls, from the last one: an id was indexed before it or by it.
    have old (known : x ∈ (session r ids).index.keys) :
        ∃ root ∈ ids ++ [id], r.Reaches root x := by
      obtain ⟨root, mem, chain⟩ := ih known
      exact ⟨root, List.mem_append_left _ mem, chain⟩
    rw [session_append] at indexed
    cases answer : ((session r ids).compile id).1 with
    | error e =>
      rw [compile_error answer] at indexed
      exact old indexed
    | ok ref =>
      have run := compileWithin_of_compile_ok answer
      rcases reaches_of_compileWithin _ (session_registry r ids) run x indexed with known | chain
      · exact old known
      · exact ⟨id, by simp, chain⟩

/-- Calls that all succeed leave all their ids indexed. -/
theorem indexed_of_compileAll (ids : List String) :
    ∀ {c c' : Compiler}, c.Sound [] → c.compileAll ids = .ok c' →
      ∀ id ∈ ids, ∃ ref, c'.index.get? id = some ref := by
  induction ids with
  | nil => exact fun _ _ id mem => absurd mem List.not_mem_nil
  | cons first ids ih =>
    intro c c' sound all id mem
    have indexed {ref : Ref} (answer : (c.compile first).1 = .ok ref) :
        (c.compile first).2.index.get? first = some ref :=
      indexed_of_compile sound answer
    have sound' := compile_sound sound first
    rw [compileAll] at all
    generalize c.compile first = result at all indexed sound'
    obtain ⟨answer, between⟩ := result
    cases answer with
    | error e => cases all
    | ok ref =>
      -- The first id is indexed by its own call, and later calls keep it.
      rcases List.mem_cons.1 mem with rfl | later
      · have grown := foldl_compile_grows ids between
        rw [foldl_compile_of_compileAll ids all] at grown
        exact ⟨ref, grown.get? (indexed rfl)⟩
      · exact ih sound' all id later

end Compiler

namespace CompiledModel

variable {r : Registry} {m : CompiledModel} {x : String}

/-- An id has a node exactly if it is among the ids. -/
theorem isSome_get?_iff : (m.get? x).isSome = true ↔ x ∈ m.ids := by
  rw [← not_iff_not, Bool.not_eq_true, Option.isSome_eq_false_iff, Option.isNone_iff_eq_none]
  exact Entries.lookup_eq_none_iff

/-- An id that is among the ids has a node. -/
theorem exists_get?_of_mem_ids (mem : x ∈ m.ids) : ∃ ref, m.get? x = some ref :=
  Option.isSome_iff_exists.1 (isSome_get?_iff.2 mem)

/-- The compiled ids are those that the declared shapes lead to. -/
theorem mem_ids_iff (compiled : ofRegistry r = .ok m) : x ∈ m.ids ↔ r.InUse x := by
  have whole := Compiler.eq_finish_of_ofRegistry compiled
  constructor
  · intro mem
    rw [whole] at mem
    exact Compiler.reaches_of_session mem
  · rintro ⟨root, declared, chain⟩
    obtain ⟨c, all, last⟩ := except_bind_ok compiled
    cases last
    -- The root was called for, and everything that it reaches was compiled with it.
    obtain ⟨ref, indexed⟩ :=
      Compiler.indexed_of_compileAll r.declaredIds (.start r) all root declared
    have same : c = Compiler.session r r.declaredIds :=
      (Compiler.foldl_compile_of_compileAll _ all).symm
    rw [same] at indexed
    obtain ⟨refx, found⟩ := Compiler.indexed_of_reaches chain indexed
    rw [← isSome_get?_iff, whole]
    exact Option.isSome_iff_exists.2 ⟨refx, found⟩

/-- Every declared id is compiled. -/
theorem mem_ids_of_declared (compiled : ofRegistry r = .ok m) (declared : x ∈ r.declaredIds) :
    x ∈ m.ids :=
  (mem_ids_iff compiled).2 ⟨x, declared, .refl⟩

end CompiledModel

/-! ### Operations by their ids -/

namespace Registry

/-- Every shape stands under its own id. -/
def Keyed (r : Registry) : Prop := ∀ e ∈ r.shapes.entries, e.2.id = e.1

/-- A shape has the id that its declaration was found under. -/
theorem keyed_ofDocument {document : Document} {r : Registry}
    (h : ofDocument document = .ok r) : r.Keyed := by
  obtain ⟨declarations, shapes⟩ := exists_of_ofDocument h
  intro e mem
  obtain ⟨declared, -, id, resolves⟩ :=
    exists_of_forall₂ (entries_ofDocument h shapes).flip mem
  exact (Shape.resolved_of_resolve resolves).name.trans id

/-- In a registry that was just loaded every shape stands under its own id. -/
theorem keyed_of_load {document : Json} {r : Registry} (h : load document = .ok r) : r.Keyed := by
  obtain ⟨_, -, h⟩ := except_bind_ok h
  exact keyed_ofDocument h

/-- Look-ups keep it so, because a prelude shape has the id that it was looked up by. -/
theorem Keyed.of_grows {r r' : Registry} (h : r.Keyed) (grown : r.Grows r') : r'.Keyed := by
  obtain ⟨added, entries, prelude⟩ := grown.shapes
  intro e mem
  rw [entries] at mem
  rcases List.mem_append.1 mem with old | new
  · exact h e old
  · obtain ⟨kind, -, shape⟩ := prelude e new
    rw [shape, Shape.ofPrelude]

/-- A shape of a keyed registry is found under its id. -/
theorem Keyed.get? {r : Registry} (h : r.Keyed) {s : Shape} (mem : s ∈ r.toList) :
    r.get? s.id = some s := by
  obtain ⟨e, entry, rfl⟩ := List.mem_map.1 mem
  rw [h e entry]
  exact OrderedMap.get?_eq_some_iff.2 entry

end Registry

/-! ### Requests -/

namespace CompiledModel

variable {r : Registry} {m : CompiledModel} {op : Shape} {x : String}

/-- The registry of a model is that of the document, with prelude shapes added. -/
theorem registry_grows (compiled : ofRegistry r = .ok m) : r.Grows m.registry := by
  rw [Compiler.eq_finish_of_ofRegistry compiled]
  exact Compiler.session_registry r r.declaredIds

/-- An operation is found by its id. -/
theorem operation?_id (keyed : m.registry.Keyed) (declared : op ∈ m.operations) :
    m.operation? op.id = some op := by
  obtain ⟨mem, kind⟩ := List.mem_filter.1 declared
  rw [operation?, keyed.get? mem, Option.filter_some, if_pos kind]

/-- The request of an operation with an input depends on whether the input is compiled. -/
theorem requestShape?_eq (found : m.operation? op.id = some op) (input : op.input = some x) :
    m.requestShape? op.id = if x ∈ m.ids then some x else m.ids.find? (isRequestOf op.id) := by
  rw [requestShape?, found, Option.bind_some, input, Option.filter_some]
  by_cases mem : x ∈ m.ids
  · rw [if_pos (isSome_get?_iff.2 mem), if_pos mem]
  · rw [if_neg (mt isSome_get?_iff.1 mem), if_neg mem]

/-- A known request has a tool. -/
theorem tool_mem {request : String} {root : Ref} (declared : op ∈ m.operations)
    (known : m.requestShape? op.id = some request) (found : m.get? request = some root)
    (lead : String) :
    { name := if lead.isEmpty then op.localName else lead ++ "_" ++ op.localName
      description := (m.documentation? op.id).getD ""
      input := m.standalone root : Tool } ∈ m.tools lead := by
  refine List.mem_filterMap.2 ⟨op, declared, ?_⟩
  rw [tool?, requestSchema?, known, Option.bind_some, found, Option.map_some]

/-- A declared input is honoured as long as a declared shape leads to it, as it does if the input is
declared itself: then it is the request of the operation, and a tool of the operation has its
schema.

Whether one does is all that counts. An input of the prelude that no shape of the document uses has
no node, and the operation takes the first compiled shape that is a request by convention, or
none. -/
theorem requestShape?_of_input {document : Json} {m : CompiledModel}
    (compiled : ofJson document = .ok m) :
    ∃ r, Registry.load document = .ok r ∧ (∀ id ∈ r.declaredIds, r.InUse id) ∧
      ∀ op ∈ m.operations, ∀ x, op.input = some x →
        (r.InUse x → m.requestShape? op.id = some x ∧ ∃ root, m.get? x = some root ∧
          ∀ lead, { name := if lead.isEmpty then op.localName else lead ++ "_" ++ op.localName
                    description := (m.documentation? op.id).getD ""
                    input := m.standalone root : Tool } ∈ m.tools lead) ∧
        (¬ r.InUse x → m.get? x = none ∧
          m.requestShape? op.id = m.ids.find? (isRequestOf op.id)) := by
  obtain ⟨r, load, model⟩ := except_bind_ok compiled
  have keyed := (Registry.keyed_of_load load).of_grows (registry_grows model)
  refine ⟨r, load, fun id declared => ⟨id, declared, .refl⟩, fun op declared x input => ?_⟩
  have request := requestShape?_eq (operation?_id keyed declared) input
  constructor
  · intro used
    have mem := (mem_ids_iff model).2 used
    rw [if_pos mem] at request
    obtain ⟨root, found⟩ := exists_get?_of_mem_ids mem
    exact ⟨request, root, found, tool_mem declared request found⟩
  · intro unused
    have unindexed : x ∉ m.ids := mt (mem_ids_iff model).1 unused
    rw [if_neg unindexed] at request
    have missing := mt isSome_get?_iff.1 unindexed
    rw [Bool.not_eq_true, Option.isSome_eq_false_iff, Option.isNone_iff_eq_none] at missing
    exact ⟨missing, request⟩

/-! ### An operation that takes nothing -/

/-- A document with an operation whose input is the unit of the prelude, which no shape uses, and
with another operation that has the name of the first in its own. -/
def getDocument : Json :=
  let operation (input : String) : Json := .object
    [("type", .string "operation"), ("input", .object [("target", .string input)])]
  .object [("shapes", .object
    [("ns#Get", operation "smithy.api#Unit"),
     ("ns#GetAll", operation "ns#GetAllRequest"),
     ("ns#GetAllRequest", .object [("type", .string "structure"), ("members", .object
        [("limit", .object [("target", .string "smithy.api#Integer")])])])])]

/-- The declared input of one operation is honoured, that of the other one has no node. -/
theorem getDocument_requests : ∃ m r, ofJson getDocument = .ok m ∧
    Registry.load getDocument = .ok r ∧ m.requestShape? "ns#GetAll" = some "ns#GetAllRequest" ∧
    ¬ r.InUse "smithy.api#Unit" ∧ m.get? "smithy.api#Unit" = none ∧
    m.requestShape? "ns#Get" = m.ids.find? (isRequestOf "ns#Get") := by
  -- The operations and the ids that the model has, in order.
  have answers : (ofJson getDocument).toOption.map (fun m =>
      (m.operations.map fun op => (op.id, op.input), m.ids)) =
        some ([("ns#Get", some "smithy.api#Unit"), ("ns#GetAll", some "ns#GetAllRequest")],
          ["ns#Get", "ns#GetAll", "ns#GetAllRequest", "smithy.api#Integer"]) := by
    decide +kernel
  obtain ⟨m, compiled, both⟩ := Option.map_eq_some_iff.1 answers
  rw [toOption_eq_some_iff] at compiled
  obtain ⟨operations, ids⟩ := Prod.mk.inj both
  obtain ⟨r, load, declared, requests⟩ := requestShape?_of_input compiled
  have model : ofRegistry r = .ok m := by
    rw [ofJson, load] at compiled
    exact compiled
  have operation (id : String) (input : Option String)
      (listed : (id, input) ∈ m.operations.map fun op => (op.id, op.input)) :
      ∃ op ∈ m.operations, op.id = id ∧ op.input = input := by
    obtain ⟨op, mem, same⟩ := List.mem_map.1 listed
    exact ⟨op, mem, Prod.mk.inj same⟩
  rw [operations] at operation
  obtain ⟨get, getMem, getId, getInput⟩ := operation "ns#Get" (some "smithy.api#Unit") (by simp)
  obtain ⟨getAll, getAllMem, getAllId, getAllInput⟩ :=
    operation "ns#GetAll" (some "ns#GetAllRequest") (by simp)
  -- One input is compiled and the other is not.
  have used : r.InUse "ns#GetAllRequest" := (mem_ids_iff model).1 (by rw [ids]; decide)
  have unused : ¬ r.InUse "smithy.api#Unit" := by
    rw [← mem_ids_iff model, ids]
    decide
  have honoured := (requests getAll getAllMem _ getAllInput).1 used
  have missed := (requests get getMem _ getInput).2 unused
  rw [getAllId] at honoured
  rw [getId] at missed
  exact ⟨m, r, compiled, load, honoured.1, unused, missed⟩

/-- The operation that takes nothing is given the request of the other one, although its declared
input has a shape. -/
theorem get_takes_getAllRequest : ∃ m, ofJson getDocument = .ok m ∧
    ∃ op ∈ m.operations, op.input = some "smithy.api#Unit" ∧
      (m.registry.shape? "smithy.api#Unit").isSome = true ∧
      m.requestShape? op.id = some "ns#GetAllRequest" := by
  have answers : (ofJson getDocument).toOption.map (fun m =>
      m.operations.any fun op => op.input == some "smithy.api#Unit" &&
        (m.registry.shape? "smithy.api#Unit").isSome &&
          m.requestShape? op.id == some "ns#GetAllRequest") = some true := by
    decide +kernel
  obtain ⟨m, compiled, found⟩ := Option.map_eq_some_iff.1 answers
  rw [toOption_eq_some_iff] at compiled
  obtain ⟨op, mem, facts⟩ := List.any_eq_true.1 found
  simp only [Bool.and_eq_true, beq_iff_eq, and_assoc] at facts
  exact ⟨m, compiled, op, mem, facts⟩

end CompiledModel

end ShapeSchema
