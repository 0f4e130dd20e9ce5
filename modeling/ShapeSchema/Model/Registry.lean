import ShapeSchema.Model.Shape

/-!
# `ShapeSchema.Model.Registry`: the shapes of one model

A registry holds the declared shapes in document order. A prelude shape that the document uses
without declaring it is made on first look-up and put after all others, so the registry only ever
grows, and a declared shape with a prelude id shadows the built-in one.
-/

set_option autoImplicit false

namespace ShapeSchema

/-- The kinds of the prelude shapes, by local name in lower case. -/
def preludeKinds : List (String × Kind) :=
  [("string", .string), ("blob", .blob), ("boolean", .boolean), ("byte", .byte),
   ("short", .short), ("integer", .integer), ("long", .long), ("float", .float),
   ("double", .double), ("biginteger", .bigInteger), ("bigdecimal", .bigDecimal),
   ("timestamp", .timestamp), ("document", .document), ("unit", .record)]

/-- The kind of a prelude shape. Case does not count in the local name, among ASCII letters, and
`Primitive` before it is an alias. -/
def builtinKind? (id : String) : Option Kind := do
  let lower := (← Text.after? preludeNamespace id).map Char.toLower
  List.lookup ((Text.after? "primitive" lower).getD lower) preludeKinds

/-- The shapes of a model by id: the declared ones, and behind them prelude shapes that were looked
up. -/
structure Registry where
  shapes : OrderedMap Shape := {}
  /-- How many shapes the document declares. -/
  declared : Nat := 0

namespace Registry

/-- The registry of a document, each shape resolved in turn. -/
def ofDocument (document : Document) : Except ModelError Registry := do
  match document.shapes with
  | none => throw (.malformed .noShapes)
  | some declarations =>
    let shapes ← declarations.entries.mapM fun e => do return (e.1, ← Shape.resolve e.1 e.2)
    let shapes : OrderedMap Shape := .ofList shapes
    return ⟨shapes, shapes.size⟩

/-- Loads a model from a value in memory. -/
def load (value : Json) : Except ModelError Registry := do
  ofDocument (← (decodeJson Document.decoder value).mapError fun m => .malformed (.misfit m))

/-- Loads a model from the first value of a text. -/
def loadText (text : String) : Except ModelError Registry := do
  ofDocument (← (decodeText Document.decoder text).mapError fun m => .malformed (.misfit m))

/-- The shape that the table has for an id. -/
def get? (r : Registry) (id : String) : Option Shape := r.shapes.get? id

/-- The shape with an id, and the registry with that shape in it. -/
def resolve (r : Registry) (id : String) : Except ModelError (Shape × Registry) :=
  match r.get? id with
  | some shape => .ok (shape, r)
  | none =>
    match builtinKind? id with
    | none => .error (.shapeNotFound id)
    | some kind =>
      let shape := Shape.ofPrelude id kind
      .ok (shape, { r with shapes := r.shapes.insert id shape })

/-- The declared ids, in document order. -/
def declaredIds (r : Registry) : List String := r.shapes.keys.take r.declared

/-- All shapes, in the order of the table. -/
def toList (r : Registry) : List Shape := r.shapes.values

/-- How many shapes there are, prelude shapes among them. -/
def size (r : Registry) : Nat := r.shapes.size

/-- There are no shapes. -/
def isEmpty (r : Registry) : Bool := r.shapes.isEmpty

end Registry

end ShapeSchema
