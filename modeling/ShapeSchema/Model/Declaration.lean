import ShapeSchema.Decode

/-!
# `ShapeSchema.Model.Declaration`: models as they are written

A document declares shapes by id. Each declaration is kept as written, traits and all; resolving it
into a shape is the work of `ShapeSchema.Model.Shape`. References are objects with a `target`.

The decoders fix which parts may be left out: only the kind of a shape and the target of a reference
have no default. Names of record types appear in messages.
-/

set_option autoImplicit false

namespace ShapeSchema

/-- A reference has one field, the id of the shape. -/
def targetFields : List (Decoder.Field String) := [.needed "target" .string fun v _ => v]

/-- A reference to a shape: the id it leads to. -/
def targetDecoder : Decoder String := .record "RawTarget" targetFields ""

/-- A member: the shape it leads to, and its traits. -/
structure MemberDeclaration where
  target : String := ""
  traits : OrderedMap Json := {}

/-- The fields of a member, in the order in which an array has them. -/
def MemberDeclaration.fields : List (Decoder.Field MemberDeclaration) :=
  [.needed "target" .string fun v m => { m with target := v },
   .optional "traits" (.map .json) fun v m => { m with traits := v }]

/-- Decodes a member. -/
def MemberDeclaration.decoder : Decoder MemberDeclaration := .record "RawMember" fields {}

/-- A shape. Which parts bear on it depends on its kind: `member` is the element of a list, `key`
and `value` belong to a map, `input` and `output` to an operation, `operations` to a service and
`identifiers` to a resource. -/
structure Declaration where
  kind : String := ""
  members : OrderedMap MemberDeclaration := {}
  member : Option MemberDeclaration := none
  key : Option MemberDeclaration := none
  value : Option MemberDeclaration := none
  required : List String := []
  traits : OrderedMap Json := {}
  input : Option String := none
  output : Option String := none
  operations : List String := []
  identifiers : OrderedMap String := {}

/-- The fields of a shape, in the order in which an array has them. -/
def Declaration.fields : List (Decoder.Field Declaration) :=
  [.needed "type" .string fun v d => { d with kind := v },
   .optional "members" (.map MemberDeclaration.decoder) fun v d => { d with members := v },
   .optional "member" (.option MemberDeclaration.decoder) fun v d => { d with member := v },
   .optional "key" (.option MemberDeclaration.decoder) fun v d => { d with key := v },
   .optional "value" (.option MemberDeclaration.decoder) fun v d => { d with value := v },
   .optional "required" (.list .string) fun v d => { d with required := v },
   .optional "traits" (.map .json) fun v d => { d with traits := v },
   .optional "input" (.option targetDecoder) fun v d => { d with input := v },
   .optional "output" (.option targetDecoder) fun v d => { d with output := v },
   .optional "operations" (.list targetDecoder) fun v d => { d with operations := v },
   .optional "identifiers" (.map targetDecoder) fun v d => { d with identifiers := v }]

/-- Decodes a shape. -/
def Declaration.decoder : Decoder Declaration := .record "RawShape" fields {}

/-- A whole model. That the shapes are missing is found out when the document is loaded. -/
structure Document where
  version : Option String := none
  shapes : Option (OrderedMap Declaration) := none

/-- The fields of a model, in the order in which an array has them. -/
def Document.fields : List (Decoder.Field Document) :=
  [.optional "smithy" (.option .string) fun v d => { d with version := v },
   .optional "shapes" (.option (.map Declaration.decoder)) fun v d => { d with shapes := v }]

/-- Decodes a model. -/
def Document.decoder : Decoder Document := .record "RawModel" fields {}

end ShapeSchema
