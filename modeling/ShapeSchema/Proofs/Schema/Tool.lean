import ShapeSchema.Proofs.Schema.Member
import ShapeSchema.Proofs.Schema.Operation

/-!
# `ShapeSchema.Proofs.Schema.Tool`: what the tools of operations take

A tool is to take an object: `CompiledModel.TakesObject`. Its schema is that of a node, so this is a
matter of the node (`takesObject_iff`), and the node is an object exactly for a record or a resource
(`Shape.object_iff_of_node`).

So it comes down to the request of the operation. A declared input is a record wherever the document
says so. The request that is found by convention is the first compiled id with the right spelling,
and nothing asks for the kind of its shape. `tools_take_objects_iff` says for which documents this
makes a difference; `sendRequest_takes_anything` has an operation that is its own request.
-/

set_option autoImplicit false

namespace ShapeSchema

namespace CompiledModel

/-- The input of a tool is an object: its schema is that of an object node, with the type of an
object and the properties of one. -/
structure TakesObject (m : CompiledModel) (t : Tool) : Prop where
  node : ∃ root members, m.node root = .object members ∧ t.input = m.standalone root
  typed : t.input.field? "type" = some (.string "object")
  properties : ∃ fields, t.input.field? "properties" = some (.object fields)

section Schema

variable {m : CompiledModel} {root : Ref}

/-- Object nodes have the two keywords. -/
theorem fields_of_object {members : OrderedMap MemberRef} (node : m.node root = .object members) :
    (m.standalone root).field? "type" = some (.string "object") ∧
      ∃ fields, (m.standalone root).field? "properties" = some (.object fields) := by
  rw [field?_standalone (by decide), field?_standalone (by decide), schemaFields, node]
  exact ⟨rfl, _, rfl⟩

/-- No other node has both: a dictionary has the type, but no properties. -/
theorem object_of_properties {fields : List (String × Json)}
    (written : (m.standalone root).field? "properties" = some (.object fields)) :
    ∃ members, m.node root = .object members := by
  rw [field?_standalone (by decide), schemaFields] at written
  -- Only an object node has the keyword.
  cases node : m.node root with
  | object members => exact ⟨members, rfl⟩
  | string pattern length format =>
    rw [node] at written
    cases format with
    | none => simp [Node.schemaFields, Node.leafFields, Entries.lookup_cons, List.lookup_append,
        lookup_keyword] at written
    | some format =>
      cases format <;> simp [Node.schemaFields, Node.leafFields, Entries.lookup_cons,
        List.lookup_append, lookup_keyword] at written
  | _ =>
    rw [node] at written
    simp [Node.schemaFields, Node.leafFields, Entries.lookup_cons, List.lookup_append,
      lookup_keyword] at written

/-- Whether a tool takes an object is seen from the node that it has the schema of. -/
theorem takesObject_iff {t : Tool} (input : t.input = m.standalone root) :
    m.TakesObject t ↔ ∃ members, m.node root = .object members := by
  constructor
  · rintro ⟨-, -, fields, written⟩
    rw [input] at written
    exact object_of_properties written
  · rintro ⟨members, node⟩
    have fields := fields_of_object node
    rw [← input] at fields
    exact ⟨⟨root, members, node, input⟩, fields.1, fields.2⟩

end Schema

variable {m : CompiledModel} {op : Shape}

/-! ### The request of an operation -/

/-- Without an input only the convention is left. -/
theorem requestShape?_of_no_input (found : m.operation? op.id = some op) (none : op.input = none) :
    m.requestShape? op.id = m.ids.find? (isRequestOf op.id) := by
  rw [requestShape?, found, Option.bind_some, none, Option.filter_none]

/-- A compiled id has a shape, and the kind of the shape tells whether its node is an object. -/
theorem object_iff_of_mem_ids {r : Registry} (compiled : ofRegistry r = .ok m) {x : String}
    (mem : x ∈ m.ids) : ∃ root s, m.get? x = some root ∧ m.registry.get? x = some s ∧
      ((∃ members, m.node root = .object members) ↔ s.kind = .record ∨ s.kind = .resource) := by
  obtain ⟨root, found⟩ := exists_get?_of_mem_ids mem
  have whole := Compiler.eq_finish_of_ofRegistry compiled
  subst whole
  obtain ⟨s, held, refs, diagnostics, -, made⟩ :=
    (Compiler.session_sound r r.declaredIds).built found
  exact ⟨root, s, found, held, Shape.object_iff_of_node made⟩

/-- The tool of an operation has the schema of its request. -/
theorem tool?_of_request {request : String} {root : Ref}
    (known : m.requestShape? op.id = some request) (found : m.get? request = some root)
    (lead : String) : ∃ t, m.tool? lead op = some t ∧ t.input = m.standalone root := by
  rw [tool?, requestSchema?, known, Option.bind_some, found, Option.map_some]
  exact ⟨_, rfl, rfl⟩

/-- An operation without a request has no tool. -/
theorem tool?_of_no_request (unknown : m.requestShape? op.id = none) (lead : String) :
    m.tool? lead op = none := by
  rw [tool?, requestSchema?, unknown, Option.bind_none, Option.map_none]

/-- The tool of a known request, with what the shape of the request says about it. -/
theorem tool?_of_requestShape? {r : Registry} (compiled : ofRegistry r = .ok m) {x : String}
    (request : m.requestShape? op.id = some x) (lead : String) :
    ∃ t s, m.tool? lead op = some t ∧ m.registry.get? x = some s ∧
      (m.TakesObject t ↔ s.kind = .record ∨ s.kind = .resource) := by
  have mem : x ∈ m.ids := isSome_get?_iff.1 (isSome_get?_of_requestShape? request)
  obtain ⟨root, s, found, held, object⟩ := object_iff_of_mem_ids compiled mem
  obtain ⟨t, tool, input⟩ := tool?_of_request request found lead
  exact ⟨t, s, tool, held, (takesObject_iff input).trans object⟩

section Loaded

variable {document : Json} {r : Registry} (loaded : Registry.load document = .ok r)
  (compiled : ofRegistry r = .ok m) (declared : op ∈ m.operations) (lead : String)

include loaded compiled declared

/-- An operation of a loaded document is found by its id. -/
theorem operation?_of_load : m.operation? op.id = some op :=
  operation?_id ((Registry.keyed_of_load loaded).of_grows (registry_grows compiled)) declared

/-- Where the input is a declared structure, it is the request. -/
theorem tool?_of_structure {x : String} (input : op.input = some x) {s : Shape}
    (held : r.get? x = some s) (record : s.kind = .record) :
    ∃ t, m.tool? lead op = some t ∧ m.TakesObject t := by
  have declaredId := Registry.mem_declaredIds_of_get? (Registry.isLoaded_of_load loaded) held
  have mem : x ∈ m.ids := mem_ids_of_declared compiled declaredId
  have request := requestShape?_eq (operation?_of_load loaded compiled declared) input
  rw [if_pos mem] at request
  obtain ⟨t, s', tool, held', object⟩ := tool?_of_requestShape? compiled request lead
  -- The registry has only grown, so it is the structure that was declared.
  cases held'.symm.trans ((registry_grows compiled).get? held)
  exact ⟨t, tool, object.2 (.inl record)⟩

/-- Without an input, the first compiled id that is a request by convention is the request. -/
theorem tool?_of_convention (inputless : op.input = none) :
    match m.ids.find? (isRequestOf op.id) with
    | none => m.tool? lead op = none
    | some x => ∃ t s, m.tool? lead op = some t ∧ m.registry.get? x = some s ∧
        (m.TakesObject t ↔ s.kind = .record ∨ s.kind = .resource) := by
  have request := requestShape?_of_no_input (operation?_of_load loaded compiled declared) inputless
  cases found : m.ids.find? (isRequestOf op.id) with
  | none => exact tool?_of_no_request (request.trans found) lead
  | some x => exact tool?_of_requestShape? compiled (request.trans found) lead

end Loaded

/-! ### The tools of a model -/

/-- Where the inputs that operations declare are declared structures, every tool of such an
operation takes an object.

An operation without input has a tool exactly if some compiled id is a request of it by convention,
and the first of these is what the tool takes. Then it takes an object exactly if that id belongs to
a structure or a resource. So all tools take objects exactly if this holds for every operation
without input; another shape that stands first, be it the operation itself, is taken instead. -/
theorem tools_take_objects_iff {document : Json} {r : Registry} {m : CompiledModel}
    (loaded : Registry.load document = .ok r) (compiled : ofJson document = .ok m)
    (structures : ∀ op ∈ m.operations, ∀ x, op.input = some x →
      ∃ s, r.get? x = some s ∧ s.kind = .record) (lead : String) :
    (∀ op ∈ m.operations, ∀ x, op.input = some x →
      ∃ t, m.tool? lead op = some t ∧ m.TakesObject t) ∧
    (∀ op ∈ m.operations, op.input = none →
      match m.ids.find? (isRequestOf op.id) with
      | none => m.tool? lead op = none
      | some x => ∃ t s, m.tool? lead op = some t ∧ m.registry.get? x = some s ∧
          (m.TakesObject t ↔ s.kind = .record ∨ s.kind = .resource)) ∧
    ((∀ t ∈ m.tools lead, m.TakesObject t) ↔
      ∀ op ∈ m.operations, op.input = none → ∀ x, m.ids.find? (isRequestOf op.id) = some x →
        ∃ s, m.registry.get? x = some s ∧ (s.kind = .record ∨ s.kind = .resource)) := by
  have model : ofRegistry r = .ok m := by
    rw [ofJson, loaded] at compiled
    exact compiled
  -- An operation either has an input or is left to the convention.
  have withInput : ∀ op ∈ m.operations, ∀ x, op.input = some x →
      ∃ t, m.tool? lead op = some t ∧ m.TakesObject t := by
    intro op declared x input
    obtain ⟨s, held, record⟩ := structures op declared x input
    exact tool?_of_structure loaded model declared lead input held record
  have withoutInput := fun op (declared : op ∈ m.operations) =>
    tool?_of_convention loaded model declared lead
  refine ⟨withInput, withoutInput, ?_⟩
  constructor
  · intro all op declared none x found
    have tool := withoutInput op declared none
    rw [found] at tool
    obtain ⟨t, s, tool, held, object⟩ := tool
    exact ⟨s, held, object.1 (all t (List.mem_filterMap.2 ⟨op, declared, tool⟩))⟩
  · intro conventional t mem
    obtain ⟨op, declared, tool⟩ := List.mem_filterMap.1 mem
    cases input : op.input with
    | some x =>
      obtain ⟨t', tool', object⟩ := withInput op declared x input
      cases tool.symm.trans tool'
      exact object
    | none =>
      -- The tool that is listed is the one of the request that was found.
      have byConvention := withoutInput op declared input
      cases found : m.ids.find? (isRequestOf op.id) with
      | none =>
        rw [found, tool] at byConvention
        cases byConvention
      | some x =>
        rw [found] at byConvention
        obtain ⟨t', s, tool', held, object⟩ := byConvention
        cases tool.symm.trans tool'
        obtain ⟨s', held', kind⟩ := conventional op declared input x found
        cases held.symm.trans held'
        exact object.2 kind

/-! ### An operation that ends like a request -/

/-- A document with an operation that declares a structure as its input, and one that declares none
and has two requests by convention. -/
def mailDocument : Json :=
  let record (member target : String) : Json := .object
    [("type", .string "structure"),
     ("members", .object [(member, .object [("target", .string target)])])]
  .object [("shapes", .object
    [("ns#Send", .object [("type", .string "operation"),
        ("input", .object [("target", .string "ns#Letter")])]),
     ("ns#Letter", record "text" "smithy.api#String"),
     ("ns#List", .object [("type", .string "operation")]),
     ("ns#ListRequest", record "limit" "smithy.api#Integer"),
     ("ns#RelistRequest", .object [("type", .string "union")])])]

/-- The structure stands first, so both tools take objects. -/
theorem mail_takes_objects : ∃ m, ofJson mailDocument = .ok m ∧
    (m.tools "mail").map (·.name) = ["mail_Send", "mail_List"] ∧
    ∀ t ∈ m.tools "mail", m.TakesObject t := by
  have answers : (ofJson mailDocument).toOption.map (fun m =>
      (m.operations.map fun op => (op.id, op.input), (m.tools "mail").map (·.name),
        (m.ids.find? (isRequestOf "ns#List")).bind fun x =>
          (m.registry.get? x).map (·.kind))) =
      some ([("ns#Send", some "ns#Letter"), ("ns#List", none)], ["mail_Send", "mail_List"],
        some .record) := by
    decide +kernel
  have letters : (Registry.load mailDocument).toOption.map (fun r =>
      (r.get? "ns#Letter").map (·.kind)) = some (some .record) := by
    decide +kernel
  obtain ⟨m, compiled, facts⟩ := Option.map_eq_some_iff.1 answers
  rw [toOption_eq_some_iff] at compiled
  obtain ⟨operations, rest⟩ := Prod.mk.inj facts
  obtain ⟨names, first⟩ := Prod.mk.inj rest
  obtain ⟨r, loaded, letter⟩ := Option.map_eq_some_iff.1 letters
  obtain ⟨s, held, record⟩ := Option.map_eq_some_iff.1 letter
  rw [toOption_eq_some_iff] at loaded
  -- The two operations: one with an input, one that is left to the convention.
  have listed {op : Shape} (declared : op ∈ m.operations) :
      (op.id, op.input) = ("ns#Send", some "ns#Letter") ∨
        (op.id, op.input) = ("ns#List", none) := by
    have mem : (op.id, op.input) ∈ m.operations.map fun op => (op.id, op.input) :=
      List.mem_map.2 ⟨op, declared, rfl⟩
    rw [operations] at mem
    simpa using mem
  have structures : ∀ op ∈ m.operations, ∀ x, op.input = some x →
      ∃ s, r.get? x = some s ∧ s.kind = .record := by
    intro op declared x input
    rcases listed declared with same | same
    · cases input.symm.trans (Prod.mk.inj same).2
      exact ⟨s, held, record⟩
    · cases input.symm.trans (Prod.mk.inj same).2
  refine ⟨m, compiled, names, ?_⟩
  refine (tools_take_objects_iff loaded compiled structures "mail").2.2.2 ?_
  intro op declared none x found
  rcases listed declared with same | same
  · cases none.symm.trans (Prod.mk.inj same).2
  · rw [(Prod.mk.inj same).1] at found
    rw [found] at first
    obtain ⟨s, held, kind⟩ := Option.map_eq_some_iff.1 first
    exact ⟨s, held, .inl kind⟩

/-- A document with an operation whose own id ends like that of a request. -/
def sendDocument : Json :=
  .object [("shapes", .object
    [("ns#SendRequest", .object [("type", .string "operation")]),
     ("ns#SendRequestRequest", .object [("type", .string "structure"), ("members", .object
        [("limit", .object [("target", .string "smithy.api#Integer")])])])])]

/-- The operation is its own request, so its tool takes anything. The structure that has a request's
name stands after it. No operation has an input that could be no structure. -/
theorem sendRequest_takes_anything : ∃ m, ofJson sendDocument = .ok m ∧
    (∀ op ∈ m.operations, op.input = none) ∧
    ∃ op ∈ m.operations, m.requestShape? op.id = some op.id ∧
      ∃ t ∈ m.tools "p", ¬ m.TakesObject t := by
  have answers : (ofJson sendDocument).toOption.map (fun m =>
      (m.operations.map fun op => (op.id, op.input), m.requestShape? "ns#SendRequest",
        (m.get? "ns#SendRequest").map fun root =>
          match m.node root with
          | .object _ => true
          | _ => false)) =
      some ([("ns#SendRequest", none)], some "ns#SendRequest", some false) := by
    decide +kernel
  obtain ⟨m, compiled, facts⟩ := Option.map_eq_some_iff.1 answers
  obtain ⟨operations, rest⟩ := Prod.mk.inj facts
  obtain ⟨request, node⟩ := Prod.mk.inj rest
  obtain ⟨root, found, other⟩ := Option.map_eq_some_iff.1 node
  -- The operation is found by the convention to be its own request.
  have only : ("ns#SendRequest", none) ∈ m.operations.map fun op => (op.id, op.input) := by
    rw [operations]
    exact List.mem_singleton_self _
  obtain ⟨op, declared, same⟩ := List.mem_map.1 only
  obtain ⟨id, -⟩ := Prod.mk.inj same
  rw [← id] at request found
  obtain ⟨t, tool, input⟩ := tool?_of_request request found "p"
  refine ⟨m, toOption_eq_some_iff.1 compiled, fun op' declared' => ?_, op, declared, request, t,
    List.mem_filterMap.2 ⟨op, declared, tool⟩, fun object => ?_⟩
  · have mem : (op'.id, op'.input) ∈ m.operations.map fun op => (op.id, op.input) :=
      List.mem_map.2 ⟨op', declared', rfl⟩
    rw [operations, List.mem_singleton] at mem
    exact (Prod.mk.inj mem).2
  · obtain ⟨members, node⟩ := (takesObject_iff input).1 object
    rw [node] at other
    cases other

end CompiledModel

end ShapeSchema
