import ShapeSchema.Model.Error

/-!
# `ShapeSchema.Model.Trait`: the traits that bear on a schema

A shape or member carries an open-ended map of traits. `Trait.parseAll` narrows it to the closed set
the library understands, in document order, and drops the rest. A trait is named bare or in the
prelude namespace; the same name in another namespace is another trait.

Where a trait is written twice under its two names, the first one counts.
-/

set_option autoImplicit false

namespace ShapeSchema

/-- The namespace of the prelude, up to and with the `#`. -/
def preludeNamespace : String := "smithy.api#"

/-- The text after a given start, if it has that start. -/
def Text.after? (start : String) (s : String) : Option String :=
  if start.toList.isPrefixOf s.toList then
    some (String.ofList (s.toList.drop start.length))
  else none

/-- Bounds as they are written, either end being open. -/
structure Bounds where
  min : Option Double := none
  max : Option Double := none
  deriving DecidableEq, Repr

/-- Decodes bounds, of which either may be missing. -/
def Bounds.decoder : Decoder Bounds :=
  .record "Bounds"
    [.optional "min" (.option .double) fun v b => { b with min := v },
     .optional "max" (.option .double) fun v b => { b with max := v }]
    {}

/-- The traits that the compiler knows, with what was read of their payloads. -/
inductive Trait where
  | pattern (source : String)
  | length (bounds : Bounds)
  | range (bounds : Bounds)
  | enum (values : List String)
  | documentation (text : String)
  | required
  deriving DecidableEq, Repr

namespace Trait

/-- The bare name of a trait of the prelude: `pattern` and `smithy.api#pattern` are the same trait,
`com.acme#pattern` is another. -/
def localName? (name : String) : Option String :=
  match Text.after? preludeNamespace name with
  | some bare => some bare
  | none => if name.toList.contains '#' then none else some name

/-- A payload that has to be a text. -/
def text (owner name : String) (payload : Json) : Except ModelError String :=
  match payload with
  | .string s => .ok s
  | _ => .error (.malformed (.traitNotText owner name payload))

/-- A payload that has to be bounds. -/
def bounds (owner name : String) (payload : Json) : Except ModelError Bounds :=
  (decodeJson Bounds.decoder payload).mapError fun m => .malformed (.traitBounds owner name m)

/-- The literal of an enum descriptor: a bare string, or the `value` of an object. -/
def enumLiteral (owner : String) (descriptor : Json) : Except ModelError String :=
  match descriptor with
  | .string s => .ok s
  | .object fields =>
    match fields.lookup "value" with
    | some (.string s) => .ok s
    | _ => .error (.malformed (.enumWithoutValue owner descriptor))
  | _ => .error (.malformed (.enumDescriptor owner descriptor))

/-- The literals of an enum trait, whose descriptors stand in a sequence or are the values of a
mapping. -/
def enumLiterals (owner : String) (payload : Json) : Except ModelError (List String) :=
  match payload with
  | .array items => items.mapM (enumLiteral owner)
  | .object fields => (fields.map Prod.snd).mapM (enumLiteral owner)
  | _ => .error (.malformed (.enumPayload owner payload))

/-- The trait of an entry, if it is one the library understands. -/
def parse? (owner name : String) (payload : Json) : Except ModelError (Option Trait) :=
  match localName? name with
  | some "pattern" => return some (.pattern (← text owner name payload))
  | some "length" => return some (.length (← bounds owner name payload))
  | some "range" => return some (.range (← bounds owner name payload))
  | some "enum" => return some (.enum (← enumLiterals owner payload))
  | some "documentation" => return some (.documentation (← text owner name payload))
  | some "required" => return some .required
  | _ => return none

/-- The traits of a map, in its order. -/
def parseAll (owner : String) (raw : OrderedMap Json) : Except ModelError (List Trait) := do
  let traits ← raw.entries.mapM fun e => parse? owner e.1 e.2
  return traits.filterMap id

/-! ### Look-up, the first of a name counting -/

/-- The first pattern. -/
def pattern? (traits : List Trait) : Option String :=
  traits.findSome? fun t => match t with | .pattern s => some s | _ => none

/-- The first bounds of a length. -/
def length? (traits : List Trait) : Option Bounds :=
  traits.findSome? fun t => match t with | .length b => some b | _ => none

/-- The first bounds of a range. -/
def range? (traits : List Trait) : Option Bounds :=
  traits.findSome? fun t => match t with | .range b => some b | _ => none

/-- The literals of the first enum. -/
def enum? (traits : List Trait) : Option (List String) :=
  traits.findSome? fun t => match t with | .enum vs => some vs | _ => none

/-- The first documentation. -/
def documentation? (traits : List Trait) : Option String :=
  traits.findSome? fun t => match t with | .documentation d => some d | _ => none

/-- The trait `required` is among them. -/
def isRequired (traits : List Trait) : Bool := traits.contains .required

end Trait

end ShapeSchema
