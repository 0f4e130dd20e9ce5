import ShapeSchema.Schema.Emission
import ShapeSchema.Unicode.Casing

/-!
# `ShapeSchema.Schema.Tool`: operations and the requests they take

An operation takes the shape it declares as input, or else one found by naming convention. A tool
descriptor is what a caller of the operation needs to know: its name, its documentation, and the
schema of its request.
-/

set_option autoImplicit false

namespace ShapeSchema

/-- What a tool is called, what it does, and the schema of its input. -/
structure Tool where
  name : String
  description : String
  input : Json

/-- A descriptor as JSON. -/
def Tool.json (t : Tool) : Json :=
  .object [("name", .string t.name), ("description", .string t.description),
    ("inputSchema", t.input)]

/-- Equality up to the case of ASCII letters. -/
def Text.sameIgnoringCase (s t : String) : Bool := s.map Char.toLower == t.map Char.toLower

/-- Some part of the text is `part`. -/
def Text.containsPart (part s : List Char) : Bool :=
  part.isPrefixOf s ||
    match s with
    | [] => false
    | _ :: rest => containsPart part rest

/-- A text in two, around the first place where a character stands. -/
def Text.splitAtFirst (c : Char) (s : String) : Option (String × String) :=
  match s.toList.dropWhile (· != c) with
  | [] => none
  | _ :: rest => some (String.ofList (s.toList.takeWhile (· != c)), String.ofList rest)

namespace CompiledModel

/-- The operations of the model. -/
def operations (m : CompiledModel) : List Shape :=
  m.registry.toList.filter fun s => s.kind == .operation

/-- The operation with an id or, if no operation has it, the first with that local name in any
case. -/
def operation? (m : CompiledModel) (name : String) : Option Shape :=
  match (m.registry.get? name).filter fun s => s.kind == .operation with
  | some shape => some shape
  | none => m.operations.find? fun s => Text.sameIgnoringCase s.localName name

/-- A shape id is that of a request by convention: it has the operation's name in it and `request`
at its end, in any case. -/
def isRequestOf (operation : String) (id : String) : Bool :=
  let id := (Unicode.lowercase id).toList
  Text.containsPart (Unicode.lowercase (localName operation)).toList id
    && "request".toList.reverse.isPrefixOf id.reverse

/-- The shape of an operation's request: its declared input if that is compiled, else the first
compiled shape that is a request by convention. -/
def requestShape? (m : CompiledModel) (operation : String) : Option String :=
  let declared := ((m.operation? operation).bind (·.input)).filter fun id => (m.get? id).isSome
  match declared with
  | some input => some input
  | none => m.ids.find? (isRequestOf operation)

/-- The node of the request of an operation. -/
def requestSchema? (m : CompiledModel) (operation : String) : Option Ref :=
  (m.requestShape? operation).bind m.get?

/-- The documentation of a shape, or of a member as `shape$member`. -/
def documentation? (m : CompiledModel) (id : String) : Option String :=
  match Text.splitAtFirst '$' id with
  | some (shape, member) => do
    let shape ← m.registry.get? shape
    Trait.documentation? (← shape.members.get? member).traits
  | none => do Trait.documentation? (← m.registry.get? id).traits

/-- The tool of an operation, if its request is known. -/
def tool? (m : CompiledModel) (lead : String) (operation : Shape) : Option Tool :=
  (m.requestSchema? operation.id).map fun root =>
    { name := if lead.isEmpty then operation.localName else lead ++ "_" ++ operation.localName
      description := (m.documentation? operation.id).getD ""
      input := m.standalone root }

/-- One tool for each operation whose request is known. A nonempty `lead` starts every name, with a
low line after it. -/
def tools (m : CompiledModel) (lead : String) : List Tool := m.operations.filterMap (m.tool? lead)

end CompiledModel

end ShapeSchema
