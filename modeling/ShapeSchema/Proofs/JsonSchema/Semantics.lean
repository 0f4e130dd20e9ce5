import ShapeSchema.Json.Pointer
import ShapeSchema.Json.Scalar
import ShapeSchema.Regex.Pattern
import ShapeSchema.Text.Timestamp

/-!
# `ShapeSchema.Proofs.JsonSchema.Semantics`: what a JSON Schema document accepts

The meaning of the keywords that emitted documents use, given for any document: a reference is
resolved in the document by its fragment, every other keyword constrains the values of the kind it
is about, and a name that is not a keyword constrains nothing. Patterns are searched for by
`Regex.isMatch`, and the format of a timestamp is asserted by `Text.isTimestamp`.

References make documents cyclic, so `check` counts steps from a schema to a subschema.
`Accepts` asks for the verdict that stands once enough steps are allowed.
-/

set_option autoImplicit false

namespace ShapeSchema

namespace Json.Number

/-- The value of a number, counted in the units of binary64. -/
def exactUnits : Json.Number → Int
  | .int n => n.val * Double.one
  | .real x => x.units

/-- The value of the binary64 number nearest to a number, counted in units. -/
def roundedUnits (n : Json.Number) : Int := n.toDouble.units

end Json.Number

namespace JsonSchema

/-- How numbers are read where they are compared: exactly, or as binary64 numbers. -/
abbrev Reading := Json.Number → Int

/-! ### References -/

/-- Takes the escapes out of a fragment. Escapes stand for ASCII characters; the bytes of longer
characters stay unread. -/
def decodeFragment : List Char → Option (List Char)
  | [] => some []
  | '%' :: high :: low :: rest => do
    let code := 16 * (← Json.hexDigit? high) + (← Json.hexDigit? low)
    if code < 128 then return Char.ofNat code :: (← decodeFragment rest) else none
  | c :: rest => if c = '%' then none else (decodeFragment rest).map (c :: ·)

/-- The part of a document that a reference within it leads to. -/
def resolve? (document : Json) (reference : String) : Option Json :=
  match reference.toList with
  | '#' :: fragment => do
    let pointer ← Json.Pointer.parse? (String.ofList (← decodeFragment fragment))
    pointer.resolve? document
  | _ => none

/-! ### Keywords -/

/-- The keywords that constrain a value. `$defs` and annotations do not. -/
inductive Keyword where
  | ref
  | type
  | enum
  | minLength
  | maxLength
  | pattern
  | format
  | minimum
  | maximum
  | items
  | minItems
  | maxItems
  | properties
  | required
  | additionalProperties
  | propertyNames
  | oneOf
  deriving DecidableEq, Repr

/-- The keyword with a name, if there is one. -/
def Keyword.ofName? (name : String) : Option Keyword :=
  match name with
  | "$ref" => some .ref
  | "type" => some .type
  | "enum" => some .enum
  | "minLength" => some .minLength
  | "maxLength" => some .maxLength
  | "pattern" => some .pattern
  | "format" => some .format
  | "minimum" => some .minimum
  | "maximum" => some .maximum
  | "items" => some .items
  | "minItems" => some .minItems
  | "maxItems" => some .maxItems
  | "properties" => some .properties
  | "required" => some .required
  | "additionalProperties" => some .additionalProperties
  | "propertyNames" => some .propertyNames
  | "oneOf" => some .oneOf
  | _ => none

/-- Whether a value has a type. A number is an integer if its value is. -/
def hasType (reading : Reading) (type : String) : Json → Bool
  | .null => type == "null"
  | .bool _ => type == "boolean"
  | .number n => type == "number" || type == "integer" && decide ((Double.one : Int) ∣ reading n)
  | .string _ => type == "string"
  | .array _ => type == "array"
  | .object _ => type == "object"

/-- Whether a value is a given text. -/
def isText (text : String) : Json → Bool
  | .string s => s == text
  | _ => false

/-- A count is at least what a number says. -/
def atLeast (count : Nat) (bound : Json.Number) : Bool :=
  decide (bound.exactUnits ≤ count * Double.one)

/-- A count is at most what a number says. -/
def atMost (count : Nat) (bound : Json.Number) : Bool :=
  decide (count * Double.one ≤ bound.exactUnits)

/-- The schema declares a property of that name. -/
def declares (keywords : List (String × Json)) (name : String) : Bool :=
  match keywords.lookup "properties" with
  | some (.object properties) => (properties.lookup name).isSome
  | _ => false

section Check

variable (reading : Reading) (document : Json)

/-- Whether a value meets one keyword of a schema, where `sub` applies a subschema to a value. A
keyword constrains values of the kind that it is about, and `enum`, `oneOf` and references constrain
all. An enumeration lists texts. -/
def holds (sub : Json → Json → Bool) (keywords : List (String × Json)) (keyword : Keyword)
    (argument value : Json) : Bool :=
  match keyword with
  | .ref =>
    match argument with
    | .string reference => (resolve? document reference).any fun schema => sub schema value
    | _ => true
  | .type =>
    match argument with
    | .string type => hasType reading type value
    | _ => true
  | .enum =>
    match argument with
    | .array values =>
      match value with
      | .string s => values.any (isText s)
      | _ => false
    | _ => true
  | .minLength =>
    match argument, value with
    | .number n, .string s => atLeast s.length n
    | _, _ => true
  | .maxLength =>
    match argument, value with
    | .number n, .string s => atMost s.length n
    | _, _ => true
  | .pattern =>
    match argument, value with
    | .string source, .string s =>
      match Regex.compile source with
      | .ok pattern => pattern.isMatch s
      | .error _ => false
    | _, _ => true
  | .format =>
    match argument, value with
    | .string "date-time", .string s => Text.isTimestamp s
    | _, _ => true
  | .minimum =>
    match argument, value with
    | .number bound, .number n => decide (reading bound ≤ reading n)
    | _, _ => true
  | .maximum =>
    match argument, value with
    | .number bound, .number n => decide (reading n ≤ reading bound)
    | _, _ => true
  | .items =>
    match value with
    | .array items => items.all (sub argument)
    | _ => true
  | .minItems =>
    match argument, value with
    | .number n, .array items => atLeast items.length n
    | _, _ => true
  | .maxItems =>
    match argument, value with
    | .number n, .array items => atMost items.length n
    | _, _ => true
  | .properties =>
    match argument, value with
    | .object properties, .object fields =>
      properties.all fun property =>
        match fields.lookup property.1 with
        | some part => sub property.2 part
        | none => true
    | _, _ => true
  | .required =>
    match argument, value with
    | .array names, .object fields =>
      names.all fun name => fields.any fun field => isText field.1 name
    | _, _ => true
  | .additionalProperties =>
    match value with
    | .object fields =>
      fields.all fun field => declares keywords field.1 || sub argument field.2
    | _ => true
  | .propertyNames =>
    match value with
    | .object fields => fields.all fun field => sub argument (.string field.1)
    | _ => true
  | .oneOf =>
    match argument with
    | .array schemas => (schemas.filter fun schema => sub schema value).length == 1
    | _ => true

/-- Whether a value meets an entry of a schema. Names that are no keywords constrain nothing. -/
def meets (sub : Json → Json → Bool) (keywords : List (String × Json)) (entry : String × Json)
    (value : Json) : Bool :=
  match Keyword.ofName? entry.1 with
  | some keyword => holds reading document sub keywords keyword entry.2 value
  | none => true

/-- Whether a value meets all entries of a schema. -/
def meetsAll (sub : Json → Json → Bool) (keywords : List (String × Json)) (value : Json) : Bool :=
  keywords.all fun entry => meets reading document sub keywords entry value

/-- The verdict of a schema on a value, within a number of steps to subschemas. -/
def check : Nat → Json → Json → Bool
  | 0, _, _ => false
  | steps + 1, schema, value =>
    match schema with
    | .bool verdict => verdict
    | .object keywords => meetsAll reading document (check steps) keywords value
    | _ => false

/-- A reference passes the value on to what it resolves to. -/
theorem check_ref (steps : Nat) (reference : String) (value : Json) :
    check reading document (steps + 1) (.object [("$ref", .string reference)]) value =
      (resolve? document reference).any fun schema => check reading document steps schema value :=
  Bool.and_true _

end Check

/-- A document accepts a value: however many steps are allowed beyond those needed, the verdict is
true. -/
def Accepts (reading : Reading) (document value : Json) : Prop :=
  ∃ needed, ∀ steps, needed ≤ steps → check reading document steps document value = true

end JsonSchema

end ShapeSchema
