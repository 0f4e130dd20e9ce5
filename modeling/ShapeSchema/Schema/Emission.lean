import ShapeSchema.Json.Pointer
import ShapeSchema.Schema.Model

/-!
# `ShapeSchema.Schema.Emission`: JSON Schema documents

A node without references is written where it is used. An aggregate that belongs to a shape is
written once, under `$defs`, and referred to by `$ref`; that keeps recursive shapes finite.

`CompiledModel.standalone` is the schema of one node with the definitions it reaches, sorted by id,
and `CompiledModel.wholeSchema` has every compiled shape as a definition, in order of compilation.
-/

set_option autoImplicit false

namespace ShapeSchema

/-- A bound as a JSON number: an integer if it is one and a signed word holds it, where `2 ^ 63` is
taken for the largest word. -/
def Double.schemaNumber (x : Double) : Json :=
  if x.isIntegral && decide (-0x8000000000000000 ≤ x.toInt) &&
      decide (x.toInt ≤ 0x8000000000000000) then
    .ofInt (x.clampTo (-0x8000000000000000) 0x7FFFFFFFFFFFFFFF)
  else .number (.real x)

/-- An optional keyword. -/
def keyword (name : String) (value : Option Json) : List (String × Json) :=
  value.toList.map fun v => (name, v)

/-- A character of a pointer inside the fragment of a reference. -/
def fragmentChar (c : Char) : List Char :=
  if c = '%' then ['%', '2', '5'] else if c = '#' then ['%', '2', '3'] else [c]

/-- The reference to the definition of a shape: its id is escaped for a pointer, then for a
fragment. -/
def definitionReference (id : String) : String :=
  "#/$defs/" ++ String.ofList ((Json.Pointer.escape id).toList.flatMap fragmentChar)

namespace Node

/-- The schema of a node without references. Aggregates are left to `schema`. -/
def leafFields : Node → List (String × Json)
  | .boolean => [("type", .string "boolean")]
  | .string pattern length format =>
    ("type", .string "string")
      :: keyword "pattern" (pattern.map fun p => .string p.source)
      ++ keyword "minLength" (length.min.map .ofWord)
      ++ keyword "maxLength" (length.max.map .ofWord)
      ++ match format with
        | some .dateTime => [("format", .string "date-time")]
        | some .base64 => [("contentEncoding", .string "base64")]
        | none => []
  | .number integer min max =>
    ("type", .string (if integer then "integer" else "number"))
      :: keyword "minimum" (min.map Double.schemaNumber)
      ++ keyword "maximum" (max.map Double.schemaNumber)
  | .enumeration values => [("type", .string "string"), ("enum", .array (values.map .string))]
  | .forward _ | .empty | .array _ _ | .object _ | .dictionary _ _ | .union _ => []

/-- The schema of an alternative: an object with just the field that it is named for. -/
def alternativeSchema (name : String) (schema : Json) : Json :=
  .object [("type", .string "object"), ("properties", .object [(name, schema)]),
    ("required", .array [.string name]), ("additionalProperties", .bool false)]

/-- The fields of a node's schema, given the schemas of the nodes it refers to. -/
def schemaFields (child : Ref → Json) : Node → List (String × Json)
  | .array element length =>
    ("type", .string "array") :: ("items", child element)
      :: keyword "minItems" (length.min.map .ofWord)
      ++ keyword "maxItems" (length.max.map .ofWord)
  | .object members =>
    let required := members.entries.filterMap fun e =>
      if e.2.required then some (Json.string e.1) else none
    ("type", .string "object")
      :: ("properties", .object (members.entries.map fun e => (e.1, child e.2.node)))
      :: (if required.isEmpty then [] else [("required", .array required)])
  | .dictionary key value =>
    [("type", .string "object"), ("propertyNames", child key),
     ("additionalProperties", child value)]
  | .union alternatives =>
    [("oneOf", .array (alternatives.entries.map fun e => alternativeSchema e.1 (child e.2)))]
  | leaf => leaf.leafFields

end Node

namespace CompiledModel

/-- The shape whose definition a reference stands for: that of an aggregate. -/
def definedShape? (m : CompiledModel) (ref : Ref) : Option String :=
  if (m.node ref).isAggregate then m.shapeId? ref else none

/-- A node where it is used: a reference to its definition, or the schema itself. -/
def childSchema (m : CompiledModel) (ref : Ref) : Json :=
  match m.definedShape? ref with
  | some id => .object [("$ref", .string (definitionReference id))]
  | none => .object (m.node ref).leafFields

/-- The schema of a node, with references to definitions that stand elsewhere. -/
def schemaFields (m : CompiledModel) (ref : Ref) : List (String × Json) :=
  (m.node ref).schemaFields m.childSchema

/-! ### The definitions a node reaches -/

/-- The aggregates with a shape that a node leads to. -/
def definedChildren (m : CompiledModel) (ref : Ref) : List Ref :=
  (m.node ref).children.filter fun r => (m.definedShape? r).isSome

/-- All references into the arena. -/
def refs (m : CompiledModel) : List Ref := (List.range m.nodes.size).map Ref.mk

/-- The references met from those pending, through the aggregates each leads to. Each is taken out
of those remaining when it is met, so a cycle is walked once. -/
def reach (m : CompiledModel) (remaining : List Ref) : List Ref → List Ref
  | [] => []
  | ref :: pending =>
    if _h : ref ∈ remaining then
      ref :: reach m (remaining.erase ref) (m.definedChildren ref ++ pending)
    else reach m remaining pending
termination_by pending => (remaining.length, pending.length)
decreasing_by
  · have shorter := List.length_erase_of_mem _h
    have nonempty := List.length_pos_of_mem _h
    exact Prod.Lex.left _ _ (by omega)
  · exact Prod.Lex.right _ (by simp)

/-- The definition of a reference, if it belongs to a shape. -/
def definition? (m : CompiledModel) (ref : Ref) : Option (String × Json) :=
  (m.shapeId? ref).map fun id => (id, .object (m.schemaFields ref))

/-- The definitions that a node needs, by ascending id. -/
def definitions (m : CompiledModel) (root : Ref) : List (String × Json) :=
  ((m.reach m.refs (m.definedChildren root)).filterMap m.definition?).mergeSort fun a b => a.1 ≤ b.1

/-- The schema of a node with all definitions it needs. -/
def standalone (m : CompiledModel) (root : Ref) : Json :=
  let definitions := m.definitions root
  .object (m.schemaFields root ++
    (if definitions.isEmpty then [] else [("$defs", .object definitions)]))

/-- The definitions of all compiled shapes. -/
def wholeSchema (m : CompiledModel) : Json :=
  .object [("$defs", .object (m.index.entries.map fun e => (e.1, .object (m.schemaFields e.2))))]

end CompiledModel

end ShapeSchema
