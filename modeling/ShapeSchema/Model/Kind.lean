/-!
# `ShapeSchema.Model.Kind`: the kinds of shapes

A kind is written as a tag. Tags outside the closed set are kept as they are, so that a document
with an unknown kind loads; compiling a shape of that kind is an error. Reading a tag loses nothing:
the tag of the kind that was read is the one that was written (`tag_ofTag`).
-/

set_option autoImplicit false

namespace ShapeSchema

/-- The kind of a shape, by the tag in the document. -/
inductive Kind where
  | string
  | enum
  | byte
  | short
  | integer
  | long
  | bigInteger
  | float
  | double
  | bigDecimal
  | boolean
  | timestamp
  | blob
  | document
  | list
  | set
  | map
  | record
  | resource
  | union
  | service
  | operation
  | unsupported (tag : String)
  deriving DecidableEq, Repr

namespace Kind

/-- The kind of a tag. A tag that is not known is kept. -/
def ofTag (tag : String) : Kind :=
  match tag with
  | "string" => .string
  | "enum" => .enum
  | "byte" => .byte
  | "short" => .short
  | "integer" => .integer
  | "long" => .long
  | "bigInteger" => .bigInteger
  | "float" => .float
  | "double" => .double
  | "bigDecimal" => .bigDecimal
  | "boolean" => .boolean
  | "timestamp" => .timestamp
  | "blob" => .blob
  | "document" => .document
  | "list" => .list
  | "set" => .set
  | "map" => .map
  | "structure" => .record
  | "resource" => .resource
  | "union" => .union
  | "service" => .service
  | "operation" => .operation
  | other => .unsupported other

/-- The tag of a kind. -/
def tag : Kind → String
  | .string => "string"
  | .enum => "enum"
  | .byte => "byte"
  | .short => "short"
  | .integer => "integer"
  | .long => "long"
  | .bigInteger => "bigInteger"
  | .float => "float"
  | .double => "double"
  | .bigDecimal => "bigDecimal"
  | .boolean => "boolean"
  | .timestamp => "timestamp"
  | .blob => "blob"
  | .document => "document"
  | .list => "list"
  | .set => "set"
  | .map => "map"
  | .record => "structure"
  | .resource => "resource"
  | .union => "union"
  | .service => "service"
  | .operation => "operation"
  | .unsupported other => other

/-- Every tag is kept, known or not. -/
theorem tag_ofTag (t : String) : (ofTag t).tag = t := by
  unfold ofTag
  split <;> rfl

/-- Shapes of the kind have schemas. -/
def isSupported : Kind → Bool
  | .unsupported _ => false
  | _ => true

end Kind

end ShapeSchema
