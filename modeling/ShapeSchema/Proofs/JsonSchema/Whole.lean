import ShapeSchema.Proofs.JsonSchema.Closed

/-!
# `ShapeSchema.Proofs.JsonSchema.Whole`: one document for all shapes

The document of a whole model writes the schema of every compiled shape once, under the id of the
shape, while the document of a single node picks the definitions that the node needs. Both write
the schema of a node in the same way, whatever else is in the document, so an entry of one is the
entry of the other (`session_schemas_agree`).

That the whole document is closed does not depend on what a walk comes to: every aggregate belongs
to an indexed id (`writesChild_wholeSchema`). `Json.references` lists the references that stand
anywhere in a document, at whatever depth, and those of the whole document stand for children, one
for one (`references_wholeSchema`).
-/

set_option autoImplicit false

namespace ShapeSchema

open JsonSchema

/-! ### References at any depth -/

mutual

/-- The references that are written in a value: its texts under the key of a reference, in the order
of the document. -/
def Json.references : Json → List String
  | .array items => itemReferences items
  | .object fields => fieldReferences fields
  | _ => []

/-- The references in the items of an array. -/
def Json.itemReferences : List Json → List String
  | [] => []
  | item :: items => item.references ++ itemReferences items

/-- The references in the fields of an object, and those that fields are themselves. -/
def Json.fieldReferences : List (String × Json) → List String
  | [] => []
  | (key, value) :: fields =>
    (if key = "$ref" then value.asString?.toList else []) ++ value.references ++
      fieldReferences fields

end

namespace Json

/-- Fields are read one after the other. -/
@[simp] theorem fieldReferences_append (fields rest : List (String × Json)) :
    fieldReferences (fields ++ rest) = fieldReferences fields ++ fieldReferences rest := by
  induction fields with
  | nil => rfl
  | cons field fields ih => simp [fieldReferences, ih]

/-- The references in items that are made one by one. -/
theorem itemReferences_map {α : Type} (f : α → Json) (xs : List α) :
    itemReferences (xs.map f) = xs.flatMap fun x => (f x).references := by
  induction xs with
  | nil => rfl
  | cons x xs ih => simp [itemReferences, ih]

/-- Items without references have none together. -/
theorem itemReferences_eq_nil {items : List Json} (bare : ∀ item ∈ items, item.references = []) :
    itemReferences items = [] := by
  induction items with
  | nil => rfl
  | cons item items ih =>
    rw [List.forall_mem_cons] at bare
    rw [itemReferences, bare.1, ih bare.2, List.append_nil]

/-- A name that is not a keyword can be that of a reference too. What stands under it is none, as
long as it is no text. -/
theorem fieldReferences_map {α : Type} (f : α → String × Json)
    (schema : ∀ x, (f x).2.asString? = none) (xs : List α) :
    fieldReferences (xs.map f) = xs.flatMap fun x => (f x).2.references := by
  induction xs with
  | nil => rfl
  | cons x xs ih =>
    rw [List.map_cons, fieldReferences, ih, schema]
    simp

/-- A text on its own is no reference. -/
@[simp] theorem references_string (s : String) : (Json.string s).references = [] := by
  simp [references]

/-- An optional keyword whose values have no references has none. -/
@[simp] theorem fieldReferences_keyword {α : Type} {name : String} (other : name ≠ "$ref")
    {f : α → Json} (bare : ∀ a, (f a).references = []) (value : Option α) :
    fieldReferences (keyword name (value.map f)) = [] := by
  cases value with
  | none => rfl
  | some a =>
    show fieldReferences [(name, f a)] = []
    rw [fieldReferences, if_neg other, bare a]
    rfl

/-- A count has no references. -/
@[simp] theorem references_ofWord (w : UInt64) : (ofWord w).references = [] := by
  simp [ofWord, references]

/-- A bound has no references. -/
@[simp] theorem references_schemaNumber (x : Double) : x.schemaNumber.references = [] := by
  unfold Double.schemaNumber ofInt
  split
  · split <;> rfl
  · rfl

end Json

namespace Node

open Json (references fieldReferences itemReferences)

/-- The schema of a leaf has no references. -/
@[simp] theorem fieldReferences_leafFields (node : Node) :
    fieldReferences node.leafFields = [] := by
  cases node with
  | string pattern length format =>
    have source : fieldReferences
        (keyword "pattern" (pattern.map fun p => Json.string p.source)) = [] :=
      Json.fieldReferences_keyword (by decide) (fun p => Json.references_string p.source) pattern
    cases format with
    | none => simp [leafFields, fieldReferences, references, source]
    | some format => cases format <;> simp [leafFields, fieldReferences, references, source]
  | enumeration values => simp [leafFields, fieldReferences, references, Json.itemReferences_map]
  | _ => simp [leafFields, fieldReferences, references]

/-- The schema of an alternative has the references of the schema that it is made of. -/
theorem references_alternativeSchema (name : String) {schema : Json}
    (object : schema.asString? = none) :
    (alternativeSchema name schema).references = schema.references := by
  simp [alternativeSchema, fieldReferences, itemReferences, references, object]

/-- The schema of an aggregate has the references of its children's schemas and no others. -/
theorem fieldReferences_schemaFields {schema : Ref → Json}
    (object : ∀ ref, (schema ref).asString? = none) (node : Node) :
    fieldReferences (node.schemaFields schema) =
      node.children.flatMap fun child => (schema child).references := by
  cases node with
  | array element length => simp [schemaFields, fieldReferences, references, children]
  | object members =>
    have properties : fieldReferences (members.entries.map fun e => (e.1, schema e.2.node)) =
        members.entries.flatMap fun e => (schema e.2.node).references :=
      Json.fieldReferences_map _ (fun _ => object _) _
    -- The names of the required members are texts.
    have required : itemReferences (members.entries.filterMap fun e =>
        if e.2.required then some (Json.string e.1) else none) = [] := by
      refine Json.itemReferences_eq_nil fun item mem => ?_
      obtain ⟨e, -, named⟩ := List.mem_filterMap.1 mem
      split at named <;> cases named
      rfl
    simp only [schemaFields, children]
    split <;>
      simp [fieldReferences, references, properties, required, OrderedMap.values,
        List.flatMap_map]
  | dictionary key value => simp [schemaFields, fieldReferences, references, children]
  | union alternatives =>
    simp [schemaFields, fieldReferences, references, children, Json.itemReferences_map,
      references_alternativeSchema _ (object _), OrderedMap.values, List.flatMap_map]
  | _ => simp [schemaFields, children]

end Node

namespace CompiledModel

variable {m : CompiledModel}

/-! ### The whole document -/

/-- Where a node is used there is an object, and it has the one reference to the definition of the
node or none. -/
theorem asString?_childSchema (ref : Ref) : (m.childSchema ref).asString? = none := by
  unfold childSchema
  split <;> rfl

/-- The schema in the place of a child has one reference if the child has a definition, and none
otherwise. -/
theorem references_childSchema (ref : Ref) :
    (m.childSchema ref).references = ((m.definedShape? ref).map definitionReference).toList := by
  unfold childSchema
  cases m.definedShape? ref with
  | none => simp [Json.references]
  | some id => simp [Json.references, Json.fieldReferences, Json.asString?]

/-- The references that are written anywhere in the whole document: one for each child with a
definition, entry by entry. -/
theorem references_wholeSchema : m.wholeSchema.references =
    m.index.entries.flatMap fun e => (m.node e.2).children.flatMap fun child =>
      ((m.definedShape? child).map definitionReference).toList := by
  have entries : Json.fieldReferences
      (m.index.entries.map fun e => (e.1, .object (m.schemaFields e.2))) =
        m.index.entries.flatMap fun e => (Json.object (m.schemaFields e.2)).references :=
    Json.fieldReferences_map _ (fun _ => rfl) _
  have schema (ref : Ref) : (Json.object (m.schemaFields ref)).references =
      (m.node ref).children.flatMap fun child =>
        ((m.definedShape? child).map definitionReference).toList := by
    simp only [← references_childSchema]
    rw [Json.references, schemaFields, Node.fieldReferences_schemaFields asString?_childSchema]
  simp only [← schema]
  simp [wholeSchema, Json.references, Json.fieldReferences, entries]

/-- The whole document has the schema of every compiled id, and nothing under other ids. -/
theorem resolve?_wholeSchema (id : String) :
    Json.Pointer.resolve? ["$defs", id] m.wholeSchema =
      (m.get? id).map fun ref => .object (m.schemaFields ref) := by
  have found := OrderedMap.get?_map (fun ref => Json.object (m.schemaFields ref)) m.index id
  rw [wholeSchema, get?, ← found]
  show (List.lookup id _).bind some = _
  rw [Option.bind_fun_some]
  rfl

/-- In the place of a child the whole document has what a document may have there: every aggregate
belongs to an indexed id, so no walk is needed to find its definition. -/
theorem writesChild_wholeSchema (wellFormed : m.WellFormed) (child : Ref) :
    m.WritesChild m.wholeSchema child (m.childSchema child) := by
  refine writesChild_of_defined wellFormed fun _ id named => ?_
  rw [resolve?_wholeSchema, get?_of_shapeId? named, Option.map_some]

/-- Without its definitions, the document of a node is the schema of the node. -/
theorem standalone_without_definitions (root : Ref) :
    ∃ fields, m.standalone root = .object fields ∧
      fields.filter (fun e => e.1 ≠ "$defs") = m.schemaFields root := by
  refine ⟨_, rfl, ?_⟩
  have free : "$defs" ∉ (m.schemaFields root).map Prod.fst :=
    Entries.lookup_eq_none_iff.1 (lookup_defs_schemaFields root)
  have kept : (m.schemaFields root).filter (fun e => e.1 ≠ "$defs") = m.schemaFields root := by
    refine List.filter_eq_self.2 fun e mem => decide_eq_true ?_
    rintro key
    exact free (key ▸ List.mem_map_of_mem mem)
  rw [List.filter_append, kept]
  split <;> simp

/-- What the document of a node defines is an entry of the whole document. -/
theorem resolve?_wholeSchema_of_standalone {root : Ref} {id : String} {schema : Json}
    (defined : Json.Pointer.resolve? ["$defs", id] (m.standalone root) = some schema) :
    Json.Pointer.resolve? ["$defs", id] m.wholeSchema = some schema := by
  have split := Json.Pointer.resolve?_append ["$defs"] [id] (m.standalone root)
  rw [List.singleton_append, defined, resolve?_defs_standalone] at split
  by_cases empty : (m.definitions root).isEmpty = true
  · rw [if_pos empty] at split
    cases split
  · rw [if_neg empty, Option.bind_some] at split
    have mem : (id, schema) ∈ m.definitions root := by
      change some schema = (List.lookup id (m.definitions root)).bind some at split
      rw [Option.bind_fun_some] at split
      exact Entries.mem_of_lookup split.symm
    obtain ⟨ref, -, definition⟩ := mem_definitions_iff.1 mem
    obtain ⟨id', named, same⟩ := Option.map_eq_some_iff.1 definition
    cases same
    rw [resolve?_wholeSchema, get?_of_shapeId? named, Option.map_some]

end CompiledModel

namespace Compiler

open CompiledModel

/-- The document of a whole model and the documents of its nodes agree.

Take the model of any session. Its whole document has the compiled ids under `$defs`, in the order
of the index, and nothing else. In the entry of an id, the place of each child holds the schema of a
leaf or a reference, which is read as the pointer to the entry under the id of the child, and there
stands the schema of the child. No other references are written anywhere in the document. The entry
of an id is the document of its node without the definitions, and every definition of the document
of any node is the entry of the same id. -/
theorem session_schemas_agree (r : Registry) (ids : List String) :
    let m := (session r ids).finish
    let whole := m.wholeSchema
    (∃ entries, whole = .object [("$defs", .object entries)] ∧ entries.map Prod.fst = m.ids) ∧
    (∀ id ref, m.get? id = some ref → ∀ p child, (p, child) ∈ (m.node ref).childPositions →
      ∃ schema, Json.Pointer.resolve? (["$defs", id] ++ p) whole = some schema ∧
        m.WritesChild whole child schema) ∧
    (∀ reference ∈ whole.references, ∃ id ref child name, m.get? id = some ref ∧
      child ∈ (m.node ref).children ∧ m.shapeId? child = some name ∧
        pointer? reference = some ["$defs", name] ∧
          resolve? whole reference = some (.object (m.schemaFields child))) ∧
    (∀ id ref, m.get? id = some ref → ∃ fields, m.standalone ref = .object fields ∧
      Json.Pointer.resolve? ["$defs", id] whole =
        some (.object (fields.filter fun e => e.1 ≠ "$defs"))) ∧
    ∀ root id schema, Json.Pointer.resolve? ["$defs", id] (m.standalone root) = some schema →
      Json.Pointer.resolve? ["$defs", id] whole = some schema := by
  intro m whole
  have wellFormed : m.WellFormed := session_wellFormed r ids
  refine ⟨⟨_, rfl, ?_⟩, ?_, ?_, ?_, fun root id schema => resolve?_wholeSchema_of_standalone⟩
  · -- The names of the definitions.
    rw [List.map_map]
    rfl
  · -- A child position stays where it is when the schema of the node becomes a definition.
    intro id ref indexed p child position
    refine ⟨m.childSchema child, ?_, writesChild_wholeSchema wellFormed child⟩
    rw [Json.Pointer.resolve?_append, resolve?_wholeSchema, indexed, Option.map_some,
      Option.bind_some]
    have stands := Node.resolve?_childPosition position m.childSchema []
    rw [List.append_nil] at stands
    exact stands
  · -- References are written only where a node leads to an aggregate, which has an id.
    intro reference written
    rw [references_wholeSchema] at written
    simp only [List.mem_flatMap, Option.mem_toList, Option.map_eq_some_iff] at written
    obtain ⟨e, entry, child, mem, name, defined, rfl⟩ := written
    have named : m.shapeId? child = some name := by
      unfold definedShape? at defined
      split at defined
      · exact defined
      · cases defined
    have read := pointer?_definitionReference name
    refine ⟨e.1, e.2, child, name, OrderedMap.get?_eq_some_iff.2 entry, mem, named, read, ?_⟩
    rw [resolve?_eq, read, Option.bind_some, resolve?_wholeSchema, get?_of_shapeId? named,
      Option.map_some]
  · -- The standalone schema without its definitions is the definition.
    intro id ref indexed
    obtain ⟨fields, document, kept⟩ := standalone_without_definitions (m := m) ref
    refine ⟨fields, document, ?_⟩
    rw [resolve?_wholeSchema, indexed, Option.map_some, kept]

/-! ### A folder in a folder, once more -/

/-- The whole document of the folders has the reference from a folder to its parent, and the entry
that it leads to is the document of a folder without its definitions, itself among them. -/
theorem folder_entry :
    let m := (session folderRegistry [folderId]).finish
    (∃ fields, m.standalone ⟨0⟩ = .object fields ∧
      Json.Pointer.resolve? ["$defs", folderId] m.wholeSchema =
        some (.object (fields.filter fun e => e.1 ≠ "$defs"))) ∧
    ∃ schema, Json.Pointer.resolve? ["$defs", folderId, "properties", "parent"] m.wholeSchema =
      some schema ∧ m.WritesChild m.wholeSchema ⟨0⟩ schema := by
  intro m
  have indexed : m.get? folderId = some ⟨0⟩ := by decide +kernel
  have position : (["properties", "parent"], ⟨0⟩) ∈ (m.node ⟨0⟩).childPositions := by
    decide +kernel
  obtain ⟨-, places, -, entries, -⟩ := session_schemas_agree folderRegistry [folderId]
  exact ⟨entries folderId ⟨0⟩ indexed, places folderId ⟨0⟩ indexed _ _ position⟩

end Compiler

end ShapeSchema
