import ShapeSchema.Proofs.JsonSchema.Reference
import ShapeSchema.Proofs.Schema.Model
import ShapeSchema.Proofs.Text.Utf8

/-!
# `ShapeSchema.Proofs.JsonSchema.Closed`: documents are closed and minimal

A document writes out the schemas of its root and of its definitions. `Node.childPositions` says
where such a schema has the schemas of the nodes it refers to. At each of these positions stands
either the schema of a leaf or a reference that is read as the pointer to a definition, and the
definition is there (`writesChild_childSchema`).

The definitions are those that the root needs and no others: they belong to the aggregates below the
root, to the root itself only if a cycle leads back to it (`mem_definitions_iff_needs`).
`session_closed` puts it together for the models of sessions.
-/

set_option autoImplicit false

namespace ShapeSchema

open JsonSchema

/-! ### Positions in the schema of a node -/

namespace Node

/-- Where the schema of a node has the schemas of the nodes that it refers to. -/
def childPositions : Node → List (Json.Pointer × Ref)
  | .array element _ => [(["items"], element)]
  | .object members => members.entries.map fun e => (["properties", e.1], e.2.node)
  | .dictionary key value => [(["propertyNames"], key), (["additionalProperties"], value)]
  | .union alternatives =>
    alternatives.entries.zipIdx.map fun e => (["oneOf", toString e.2, "properties", e.1.1], e.1.2)
  | _ => []

/-- There is one position for each child, in the order of the children. -/
theorem map_snd_childPositions (node : Node) :
    node.childPositions.map Prod.snd = node.children := by
  cases node with
  | object members =>
    rw [childPositions, children, OrderedMap.values, List.map_map, List.map_map]
    rfl
  | union alternatives =>
    -- The values are the second halves of the entries, with their places forgotten.
    have forget : alternatives.entries.zipIdx.map (Prod.snd ∘ Prod.fst) =
        alternatives.entries.map Prod.snd := by
      rw [← List.map_map, List.zipIdx_map_fst]
    rw [childPositions, List.map_map]
    exact forget
  | _ => rfl

/-- At the position of a child stands the schema of the child, whatever comes behind the schema of
the node. -/
theorem resolve?_childPosition {node : Node} {p : Json.Pointer} {child : Ref}
    (mem : (p, child) ∈ node.childPositions) (schema : Ref → Json) (rest : List (String × Json)) :
    Json.Pointer.resolve? p (.object (node.schemaFields schema ++ rest)) = some (schema child) := by
  cases node with
  | array element length =>
    cases List.mem_singleton.1 mem
    rfl
  | object members =>
    obtain ⟨e, held, same⟩ := List.mem_map.1 mem
    cases same
    -- Members have different names, so the look-up by name finds this one.
    let properties := members.entries.map fun e => (e.1, schema e.2.node)
    have distinct : (properties.map Prod.fst).Nodup := by
      rw [List.map_map]
      exact members.distinct
    have found : properties.lookup e.1 = some (schema e.2.node) :=
      Entries.lookup_of_mem distinct (List.mem_map.2 ⟨e, held, rfl⟩)
    show (properties.lookup e.1).bind some = _
    rw [found, Option.bind_some]
  | dictionary key value =>
    rcases List.mem_pair.1 mem with same | same
    · cases same
      rfl
    · cases same
      rfl
  | union alternatives =>
    obtain ⟨⟨e, i⟩, held, same⟩ := List.mem_map.1 mem
    cases same
    have placed : alternatives.entries[i]? = some e := List.mk_mem_zipIdx_iff_getElem?.1 held
    show ((Json.Pointer.index? (toString i)).bind fun i =>
      (alternatives.entries.map fun e => alternativeSchema e.1 (schema e.2))[i]?).bind
        (Json.Pointer.resolve? ["properties", e.1]) = _
    rw [Json.Pointer.index?_toString, Option.bind_some, List.getElem?_map, placed, Option.map_some,
      Option.bind_some]
    show (List.lookup e.1 [(e.1, schema e.2)]).bind some = _
    rw [Entries.lookup_cons, if_pos rfl, Option.bind_some]
  | _ => cases mem

end Node

namespace CompiledModel

variable {m : CompiledModel} {root : Ref}

/-! ### What a document needs -/

/-- The root needs the definition of a shape: one or more steps down from the root stands an
aggregate, and it belongs to the shape. -/
structure Needs (m : CompiledModel) (root : Ref) (id : String) (ref : Ref) : Prop where
  below : Relation.TransGen m.Refers root ref
  aggregate : (m.node ref).isAggregate = true
  named : m.shapeId? ref = some id

/-- Only aggregates refer to others. -/
theorem isAggregate_of_refers {ref child : Ref} (step : m.Refers ref child) :
    (m.node ref).isAggregate = true := by
  unfold Refers at step
  cases hnode : m.node ref with
  | array | object | dictionary | union => rfl
  | _ =>
    rw [hnode] at step
    cases step

/-- The walk goes from a node to those of its children that are aggregates. -/
theorem leads_iff (wellFormed : m.WellFormed) {ref child : Ref} :
    m.Leads ref child ↔ m.Refers ref child ∧ (m.node child).isAggregate = true := by
  rw [Leads, definedChildren, List.mem_filter, definedShape?]
  refine and_congr_right fun _ => ?_
  cases aggregate : (m.node child).isAggregate with
  | false => simp
  | true => simpa using wellFormed.named child aggregate

/-- So it comes to every aggregate below the node where it starts: whatever stands on the way there
refers to something, and is an aggregate itself. -/
theorem transGen_leads_iff (wellFormed : m.WellFormed) {ref : Ref} :
    Relation.TransGen m.Leads root ref ↔
      Relation.TransGen m.Refers root ref ∧ (m.node ref).isAggregate = true := by
  constructor
  · intro chain
    obtain ⟨_, -, last⟩ := Relation.TransGen.tail'_iff.1 chain
    exact ⟨Relation.TransGen.mono (fun _ _ step => ((leads_iff wellFormed).1 step).1) _ _ chain,
      ((leads_iff wellFormed).1 last).2⟩
  · rintro ⟨chain, aggregate⟩
    induction chain with
    | single step => exact .single ((leads_iff wellFormed).2 ⟨step, aggregate⟩)
    | tail _ step ih =>
      exact .tail (ih (isAggregate_of_refers step)) ((leads_iff wellFormed).2 ⟨step, aggregate⟩)

/-- The definitions are those that the root needs, each with the schema of its node. -/
theorem mem_definitions_iff_needs (wellFormed : m.WellFormed) {id : String} {schema : Json} :
    (id, schema) ∈ m.definitions root ↔
      ∃ ref, m.Needs root id ref ∧ schema = .object (m.schemaFields ref) := by
  rw [mem_definitions_iff]
  refine exists_congr fun ref => ?_
  rw [transGen_leads_iff wellFormed, definition?, Option.map_eq_some_iff]
  constructor
  · rintro ⟨⟨below, aggregate⟩, id', named, same⟩
    cases same
    exact ⟨⟨below, aggregate, named⟩, rfl⟩
  · rintro ⟨⟨below, aggregate, named⟩, rfl⟩
    exact ⟨⟨below, aggregate⟩, id, named, rfl⟩

/-- The keys of the definitions ascend in the order of their bytes. -/
theorem pairwise_utf8_definitions (root : Ref) :
    ((m.definitions root).map Prod.fst).Pairwise fun a b => Text.utf8 a < Text.utf8 b := by
  have ascending := (List.pairwise_map.2 (m.pairwise_definitions root)).and (nodup_definitions root)
  refine ascending.imp fun ⟨le, ne⟩ => Text.utf8_lt_utf8 ?_
  by_contra notLess
  exact ne (String.le_antisymm le (String.not_lt.1 notLess))

/-! ### What a document writes -/

/-- The nodes whose schemas a document writes out, and where: the root at the top, and each node
that it needs under the id of its shape. -/
inductive Writes (m : CompiledModel) (root : Ref) : Json.Pointer → Ref → Prop
  | root : Writes m root [] root
  | definition {id : String} {ref : Ref} (needed : m.Needs root id ref) :
      Writes m root ["$defs", id] ref

/-- What a document may have in the place of a child: the schema of a leaf, or a reference to the
definition that the document has for the shape of the child. -/
inductive WritesChild (m : CompiledModel) (document : Json) (child : Ref) : Json → Prop
  | inlined (leaf : (m.node child).isAggregate = false) :
      WritesChild m document child (.object (m.schemaFields child))
  | referred {id reference : String} (aggregate : (m.node child).isAggregate = true)
      (named : m.shapeId? child = some id) (read : pointer? reference = some ["$defs", id])
      (defined : Json.Pointer.resolve? ["$defs", id] document =
        some (.object (m.schemaFields child))) :
      WritesChild m document child (.object [("$ref", .string reference)])

/-- The schema of a child may stand in any document that has the definition of the child, if the
child is an aggregate. -/
theorem writesChild_of_defined (wellFormed : m.WellFormed) {document : Json} {child : Ref}
    (defined : (m.node child).isAggregate = true → ∀ id, m.shapeId? child = some id →
      Json.Pointer.resolve? ["$defs", id] document = some (.object (m.schemaFields child))) :
    m.WritesChild document child (m.childSchema child) := by
  cases aggregate : (m.node child).isAggregate with
  | false =>
    rw [childSchema_of_leaf aggregate, ← schemaFields_of_leaf aggregate]
    exact .inlined aggregate
  | true =>
    obtain ⟨id, named⟩ := Option.isSome_iff_exists.1 (wellFormed.named child aggregate)
    rw [childSchema, definedShape?, if_pos aggregate, named]
    exact .referred aggregate named (pointer?_definitionReference id) (defined aggregate id named)

/-- In the schema of a node that the document writes out stands, in the place of each child, what a
document may have there. -/
theorem writesChild_childSchema (wellFormed : m.WellFormed) {place : Json.Pointer} {ref child : Ref}
    (written : m.Writes root place ref) (mem : child ∈ (m.node ref).children) :
    m.WritesChild (m.standalone root) child (m.childSchema child) := by
  -- The child is one more step down from the root than the node.
  have below : Relation.TransGen m.Refers root child := by
    cases written with
    | root => exact .single mem
    | definition needed => exact needed.below.tail mem
  refine writesChild_of_defined wellFormed fun aggregate id named => ?_
  exact resolve?_definition
    ((mem_definitions_iff_needs wellFormed).2 ⟨child, ⟨below, aggregate, named⟩, rfl⟩)

/-- At its place a document has the schema of a node that it writes out. Only the definitions may
come behind it, in the schema of the root. -/
theorem exists_resolve?_of_writes (wellFormed : m.WellFormed) {place : Json.Pointer} {ref : Ref}
    (written : m.Writes root place ref) :
    ∃ rest, Json.Pointer.resolve? place (m.standalone root) =
      some (.object (m.schemaFields ref ++ rest)) := by
  cases written with
  | root => exact ⟨_, rfl⟩
  | definition needed =>
    refine ⟨[], ?_⟩
    rw [List.append_nil]
    exact resolve?_definition ((mem_definitions_iff_needs wellFormed).2 ⟨ref, needed, rfl⟩)

end CompiledModel

namespace Compiler

open CompiledModel

/-- Documents are closed and minimal.

Take the model of any session, and the document of any of its nodes. Wherever the document writes
out the schema of a node, be it the root or a definition, the place of each child holds either the
schema of a leaf or a reference, which is read as the pointer to the definition under the id of the
child; there the document has the schema of the child. The definitions are those of the aggregates
that are one or more steps below the root, so the root has one only if it lies on a cycle. Their ids
ascend in the order of their bytes, and without definitions there is no keyword for them. -/
theorem session_closed (r : Registry) (ids : List String) (root : Ref) :
    let m := (session r ids).finish
    let document := m.standalone root
    (∀ place ref, m.Writes root place ref → ∀ p child, (p, child) ∈ (m.node ref).childPositions →
      ∃ schema, Json.Pointer.resolve? (place ++ p) document = some schema ∧
        m.WritesChild document child schema) ∧
    ∃ definitions : List (String × Json),
      Json.Pointer.resolve? ["$defs"] document =
        (if definitions.isEmpty then none else some (.object definitions)) ∧
      (∀ id schema, (id, schema) ∈ definitions ↔
        ∃ ref, m.Needs root id ref ∧ schema = .object (m.schemaFields ref)) ∧
      (definitions.map Prod.fst).Pairwise (fun a b => Text.utf8 a < Text.utf8 b) ∧
      ∀ id, m.shapeId? root = some id →
        (id ∈ definitions.map Prod.fst ↔ Relation.TransGen m.Refers root root) := by
  intro m document
  have wellFormed : m.WellFormed := session_wellFormed r ids
  constructor
  · intro place ref written p child position
    obtain ⟨rest, stands⟩ := exists_resolve?_of_writes wellFormed written
    have mem : child ∈ (m.node ref).children := by
      rw [← Node.map_snd_childPositions]
      exact List.mem_map_of_mem position
    refine ⟨m.childSchema child, ?_, writesChild_childSchema wellFormed written mem⟩
    rw [Json.Pointer.resolve?_append, stands, Option.bind_some]
    exact Node.resolve?_childPosition position m.childSchema rest
  · refine ⟨m.definitions root, resolve?_defs_standalone root,
      fun id schema => mem_definitions_iff_needs wellFormed, pairwise_utf8_definitions root, ?_⟩
    intro id named
    constructor
    · intro key
      obtain ⟨⟨_, schema⟩, held, rfl⟩ := List.mem_map.1 key
      obtain ⟨ref, needed, -⟩ := (mem_definitions_iff_needs wellFormed).1 held
      -- The index has one reference for the id, and that is the root.
      have same := get?_of_shapeId? needed.named
      rw [get?_of_shapeId? named] at same
      cases same
      exact needed.below
    · intro cycle
      obtain ⟨_, first, -⟩ := Relation.TransGen.head'_iff.1 cycle
      have needed : m.Needs root id root := ⟨cycle, isAggregate_of_refers first, named⟩
      exact List.mem_map.2
        ⟨_, (mem_definitions_iff_needs wellFormed).2 ⟨root, needed, rfl⟩, rfl⟩

/-! ### A folder in a folder -/

/-- An id with every character that is escaped in a pointer or in a fragment. -/
def folderId : String := "app/v1~2#Folder%"

/-- A registry of folders that have other folders, and a parent. -/
def folderRegistry : Registry where
  shapes := .ofList
    [(folderId,
      { id := folderId
        kind := .record
        members := .ofList
          [("name", ⟨"smithy.api#String", true, []⟩), ("parent", ⟨folderId, false, []⟩),
           ("folders", ⟨"app#Folders", false, []⟩)] }),
     ("app#Folders",
      { id := "app#Folders", kind := .list, members := .empty, element := some folderId })]
  declared := 2

/-- A folder lies on a cycle, so its document defines it once more, and in that definition the
parent is a reference that leads back to the definition. -/
theorem folder_closed :
    let m := (session folderRegistry [folderId]).finish
    let document := m.standalone ⟨0⟩
    ∃ reference,
      Json.Pointer.resolve? ["$defs", folderId, "properties", "parent"] document =
        some (.object [("$ref", .string reference)]) ∧
      pointer? reference = some ["$defs", folderId] ∧
      Json.Pointer.resolve? ["$defs", folderId] document = some (.object (m.schemaFields ⟨0⟩)) := by
  intro m document
  have position : (["properties", "parent"], ⟨0⟩) ∈ (m.node ⟨0⟩).childPositions := by
    decide +kernel
  have itself : (⟨0⟩ : Ref) ∈ (m.node ⟨0⟩).children := by decide +kernel
  have aggregate : (m.node ⟨0⟩).isAggregate = true := by decide +kernel
  have named : m.shapeId? ⟨0⟩ = some folderId := by decide +kernel
  -- The folder leads to itself, so its definition is in its own document.
  have needed : m.Needs ⟨0⟩ folderId ⟨0⟩ := ⟨.single itself, aggregate, named⟩
  obtain ⟨schema, stands, written⟩ := (session_closed folderRegistry [folderId] ⟨0⟩).1 _ _
    (.definition needed) _ _ position
  cases written with
  | inlined leaf =>
    rw [aggregate] at leaf
    cases leaf
  | referred _ named' read defined =>
    rw [named] at named'
    cases named'
    exact ⟨_, stands, read, defined⟩

end Compiler

end ShapeSchema
