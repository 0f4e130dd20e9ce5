import ShapeSchema.Double.Decimal
import ShapeSchema.Json.Tree
import ShapeSchema.Text.Quoted

/-!
# `ShapeSchema.Decode`: typed documents from JSON trees

A `Decoder` reads a typed value from a tree, and reports the first thing in document order that does
not fit: the cause, the path of the value that was being read and, for a text, the place.

A record may be written as an object or as the array of its fields in declaration order. Unknown
fields of an object are skipped, a repeated one is a mistake, and fields that are not required keep
their default.

`decodeText` reads the first value of a text and leaves what follows it; `decodeJson` reads a value
in memory. Both run the same decoder, on `Tree.ofText` and on `Tree.ofJson`.
-/

set_option autoImplicit false

namespace ShapeSchema

open Json (Tree Fault Segment TreeFault Ending Key Number)

namespace Decode

/-- What does not fit. -/
inductive Cause where
  | malformed (fault : Fault)
  | wrongKind (found expected : String)
  | missingField (name : String)
  | duplicateField (name : String)
  | tooFew (count : Nat) (expected : String)
  | tooMany (count : Nat)
  deriving DecidableEq, Repr

/-- The text of a cause. -/
def Cause.message : Cause → String
  | .malformed fault => fault.message
  | .wrongKind found expected => s!"invalid type: {found}, expected {expected}"
  | .missingField name => s!"missing field `{name}`"
  | .duplicateField name => s!"duplicate field `{name}`"
  | .tooFew count expected => s!"invalid length {count}, expected {expected}"
  | .tooMany count => s!"invalid length {count}, expected fewer elements in array"

/-- A cause, where in the document it stands, and the count of bytes at which it is reported. -/
structure Error where
  path : List Segment
  cause : Cause
  place : Nat

/-- An error of a part is one of the whole, one step further in. -/
def Error.within (segment : Segment) (e : Error) : Error := { e with path := segment :: e.path }

/-- A fault of the document is an error where it stands. -/
def Error.ofFault (f : TreeFault) : Error := ⟨f.path, .malformed f.error.fault, f.error.offset⟩

/-- Whether a tree was made from a text, which has places and a limit of nesting, or from a value.
-/
inductive Origin where
  | text
  | memory
  deriving DecidableEq, Repr

/-- What a decoder knows besides the tree. -/
structure Context where
  origin : Origin
  depth : Tree.Depth

end Decode

/-- Reads a typed value from a tree. -/
abbrev Decoder (α : Type) := Decode.Context → Tree → Except Decode.Error α

namespace Decoder

open Decode

variable {α : Type}

/-- How a message names what was found. A faulty tree has its fault instead. -/
def found (tree : Tree) : Except Error String :=
  let here (e : Json.SyntaxError) : Error := .ofFault (.here e)
  match tree with
  | .null _ => .ok "null"
  | .bool b _ => .ok s!"boolean `{b}`"
  | .number n _ => (n.mapError here).map fun n => match n with
    | .int n => s!"integer `{n.val}`"
    | .real x => s!"floating point `{x.json}`"
  | .string s _ => (s.mapError here).map fun s => "string " ++ Text.quote s
  | .array _ _ _ => .ok "sequence"
  | .object _ _ _ => .ok "map"
  | .broken _ fault => .error (here fault.reading)

/-- Where a value of the wrong kind is reported: after a scalar, and at the start of an array or an
object. -/
def placeOf : Tree → Nat
  | .null s | .bool _ s | .number _ s | .string _ s => s.stop
  | .array start _ _ | .object start _ _ | .broken start _ => start

/-- The value is of another kind than the one expected. -/
def wrongKind (expected : String) (tree : Tree) : Except Error α := do
  throw ⟨[], .wrongKind (← found tree) expected, placeOf tree⟩

/-- The context inside the array or object that starts at `start`. -/
def enter (context : Context) (start : Nat) : Except Error Context := do
  let depth ← (context.depth.enter start).mapError .ofFault
  return { context with depth }

/-- A text. -/
def string : Decoder String := fun _ tree =>
  match tree with
  | .string (.ok s) _ => .ok s
  | _ => wrongKind "a string" tree

/-- A number, as the nearest binary64 number. -/
def double : Decoder Double := fun _ tree =>
  match tree with
  | .number (.ok n) _ => .ok n.toDouble
  | _ => wrongKind "f64" tree

/-- Any value, as it stands. -/
def json : Decoder Json := fun context tree =>
  (tree.valueWithin context.depth).mapError .ofFault

/-- A null is an absent value. -/
def option (read : Decoder α) : Decoder (Option α) := fun context tree =>
  match tree with
  | .null _ => .ok none
  | _ => (read context tree).map some

/-- The items of an array, the first of which has this index. -/
def items (read : Decoder α) (context : Context) :
    Nat → List Tree → Ending → Except Error (List α)
  | _, [], .closed _ => .ok []
  | _, [], .broken fault => .error (.ofFault (.here fault.reading))
  | index, item :: rest, ending => do
    let value ← (read context item).mapError (·.within (.index index))
    let values ← items read context (index + 1) rest ending
    return value :: values

/-- A list, its items decoded one by one. -/
def list (read : Decoder α) : Decoder (List α) := fun context tree =>
  match tree with
  | .array start trees ending => do items read (← enter context start) 0 trees ending
  | _ => wrongKind "a sequence" tree

/-- A fault in a key belongs to a part of the object that has no name. -/
def keyName (key : Key) : Except Error String :=
  key.name.mapError fun e => (Error.ofFault (.here e)).within .unknown

/-- The colon behind a key. -/
def keyColon (key : Key) : Except Error Unit := key.checkColon.mapError .ofFault

/-- The entries of an object in document order. -/
def entries (read : Decoder α) (context : Context) :
    List (Key × Tree) → Ending → Except Error (List (String × α))
  | [], .closed _ => .ok []
  | [], .broken fault => .error ((Error.ofFault (.here fault.reading)).within .unknown)
  | (key, tree) :: rest, ending => do
    let name ← keyName key
    keyColon key
    let value ← (read context tree).mapError (·.within (.key name))
    let values ← entries read context rest ending
    return (name, value) :: values

/-- A map, its values decoded one by one. Of a repeated key the last value is kept. -/
def map (read : Decoder α) : Decoder (OrderedMap α) := fun context tree =>
  match tree with
  | .object start fields ending => do
    let values ← entries read (← enter context start) fields ending
    return .ofList values
  | _ => wrongKind "a map" tree

/-! ### Records -/

/-- A field of a record: its name, whether it has to be written, and how to read it into the
record. -/
structure Field (α : Type) where
  name : String
  required : Bool
  read : Decoder (α → α)

/-- A field that has to be written. -/
def Field.needed {β : Type} (name : String) (read : Decoder β) (set : β → α → α) : Field α :=
  ⟨name, true, fun context tree => (read context tree).map set⟩

/-- A field with a default. -/
def Field.optional {β : Type} (name : String) (read : Decoder β) (set : β → α → α) : Field α :=
  ⟨name, false, fun context tree => (read context tree).map set⟩

/-- After the last field only the end of the array may follow. -/
def arrayEnd (context : Context) (count : Nat) : List Tree → Ending → Except Error Unit
  | [], .closed _ => .ok ()
  | [], .broken fault =>
    let kind := match fault.reading.fault with
      | .expectedListComma | .eofInValue => Fault.trailingCharacters
      | other => other
    .error ⟨[], .malformed kind, fault.reading.offset⟩
  | item :: rest, _ =>
    match context.origin with
    | .text => .error ⟨[], .malformed .trailingCharacters, item.start + 1⟩
    | .memory => .error ⟨[], .tooMany (count + rest.length + 1), 0⟩

/-- The record of an array, the fields before `index` being read. -/
def positional (expected : String) (context : Context) :
    List (Field α) → Nat → List Tree → Ending → α → Except Error α
  | [], index, trees, ending, record => do
    arrayEnd context index trees ending
    return record
  | field :: fields, index, tree :: trees, ending, record => do
    let set ← (field.read context tree).mapError (·.within (.index index))
    positional expected context fields (index + 1) trees ending (set record)
  | field :: fields, index, [], .closed stop, record =>
    if field.required then .error ⟨[], .tooFew index expected, stop⟩
    else positional expected context fields index [] (.closed stop) record
  | _ :: _, _, [], .broken fault, _ => .error (.ofFault (.here fault.reading))

/-- The record of an object, the fields in `seen` being read. -/
def named (fields : List (Field α)) (context : Context) :
    List (Key × Tree) → Ending → List String → α → Except Error α
  | [], .broken fault, _, _ => .error ((Error.ofFault (.here fault.reading)).within .unknown)
  | [], .closed stop, seen, record =>
    match fields.find? fun f => f.required && !seen.contains f.name with
    | some f => .error ⟨[], .missingField f.name, stop⟩
    | none => .ok record
  | (key, tree) :: rest, ending, seen, record => do
    let name ← keyName key
    match fields.find? fun f => f.name == name with
    | none =>
      keyColon key
      -- The value of an unknown field is skipped over, and that can fail.
      match tree.skipFault? with
      | some fault => throw ((Error.ofFault (.here fault)).within (.key name))
      | none => named fields context rest ending seen record
    | some field =>
      if seen.contains name then throw ⟨[], .duplicateField name, key.stop⟩
      keyColon key
      let set ← (field.read context tree).mapError (·.within (.key name))
      named fields context rest ending (name :: seen) (set record)

/-- A record of the given type, starting from its defaults. -/
def record (typeName : String) (fields : List (Field α)) (start : α) : Decoder α :=
  fun context tree =>
    match tree with
    | .array place trees ending => do
      let count := fields.length
      let unit := if count = 1 then "element" else "elements"
      let expected := s!"struct {typeName} with {count} {unit}"
      positional expected (← enter context place) fields 0 trees ending start
    | .object place entries ending => do
      named fields (← enter context place) entries ending [] start
    | _ => wrongKind s!"struct {typeName}" tree

end Decoder

/-! ### Entry points -/

/-- What a document does not fit: a cause, its path, and its line and column in a text. -/
structure Misfit where
  path : List Segment
  cause : Decode.Cause
  position : Option Json.Position

namespace Misfit

/-- The cause, and for a text the position. -/
def detail (m : Misfit) : String :=
  match m.position with
  | none => m.cause.message
  | some p => s!"{m.cause.message} at line {p.line} column {p.column}"

/-- The text of a misfit, with the path to it. -/
def message (m : Misfit) : String := s!"at JSON path {Json.pathText m.path} → {m.detail}"

end Misfit

variable {α : Type}

/-- Reads the first value of a text. -/
def decodeText (read : Decoder α) (text : String) : Except Misfit α :=
  (read ⟨.text, Tree.Depth.ofText⟩ (Tree.ofText text)).mapError fun e =>
    ⟨e.path, e.cause, some (Json.Position.ofOffset text e.place)⟩

/-- Reads a value in memory. -/
def decodeJson (read : Decoder α) (value : Json) : Except Misfit α :=
  (read ⟨.memory, none⟩ (Tree.ofJson value)).mapError fun e => ⟨e.path, e.cause, none⟩

end ShapeSchema
