import ShapeSchema.Json.Pointer
import ShapeSchema.Schema.Model
import ShapeSchema.Text.Quoted
import ShapeSchema.Text.Timestamp

/-!
# `ShapeSchema.Schema.Violation`: checking values against nodes

A check walks the value, so recursive schemas need no guard: each step into a node goes with a step
into the value. What it finds is a list of violations, each a place in the value and a cause.

A check recurses on the value alone. `Json.violations` turns a value into the map from nodes to
violations, and the fields of an object into a list of such maps, from which the members of a node
then take their own in the node's order.
-/

set_option autoImplicit false

namespace ShapeSchema

namespace Violation

/-- What a value is refused for. -/
inductive Cause where
  | wrongKind (expected : String) (got : Json)
  | tooShort (length : Nat) (min : UInt64)
  | tooLong (length : Nat) (max : UInt64)
  | noMatch (pattern : String)
  | notTimestamp (text : String)
  | notInteger (n : Double)
  | belowMinimum (n min : Double)
  | aboveMaximum (n max : Double)
  | tooFewItems (count : Nat) (min : UInt64)
  | tooManyItems (count : Nat) (max : UInt64)
  | missingMember
  | notListed (text : String) (values : List String)
  | memberCount (count : Nat)
  | unknownAlternative (tag : String)

/-- The text of a cause. -/
def Cause.message : Cause → String
  | .wrongKind expected got => s!"expected {expected}, got {got.kindName}"
  | .tooShort length min => s!"length {length} is below minimum {min}"
  | .tooLong length max => s!"length {length} exceeds maximum {max}"
  | .noMatch pattern => s!"does not match pattern `{pattern}`"
  | .notTimestamp text => s!"`{text}` is not an RFC 3339 date-time"
  | .notInteger n => s!"expected integer, got {n.plain}"
  | .belowMinimum n min => s!"{n.plain} is below minimum {min.plain}"
  | .aboveMaximum n max => s!"{n.plain} exceeds maximum {max.plain}"
  | .tooFewItems count min => s!"{count} items is below minimum {min}"
  | .tooManyItems count max => s!"{count} items exceeds maximum {max}"
  | .missingMember => "missing required member"
  | .notListed text values => s!"`{text}` is not one of {Text.quoteList values}"
  | .memberCount count => s!"expected exactly one union member, found {count}"
  | .unknownAlternative tag => s!"unknown union member `{tag}`"

end Violation

/-- A cause, and the path from the value to the part that it is about. -/
structure Violation where
  path : Json.Pointer
  cause : Violation.Cause

namespace Violation

/-- The text of a violation, without its path. -/
def message (v : Violation) : String := v.cause.message

/-- The violation one step further out. -/
def under (segment : String) (v : Violation) : Violation := { v with path := segment :: v.path }

/-- The place and the cause; the whole value is written as a slash. -/
def display (v : Violation) : String :=
  let place := if v.path.isEmpty then "/" else v.path.render
  s!"{place}: {v.message}"

/-- A violation of the value itself. -/
def here (cause : Cause) : Violation := ⟨[], cause⟩

/-- The causes that hold, as violations of the value itself. -/
def collect (causes : List (Option Cause)) : List Violation := (causes.filterMap id).map here

/-- A cause that arises under a condition. -/
def when (condition : Bool) (cause : Cause) : Option Cause := if condition then some cause else none

end Violation

open Violation (here collect when)

/-! ### Values without parts -/

/-- What is wrong with a text under the constraints of a string node. Length counts characters. -/
def textViolations (pattern : Option Regex) (length : Length) (format : Option Format)
    (s : String) : List Violation :=
  let count := s.length
  collect
    [length.min.bind fun min => when (decide (count < min.toNat)) (.tooShort count min),
     length.max.bind fun max => when (decide (max.toNat < count)) (.tooLong count max),
     pattern.bind fun p => when (!p.isMatch s) (.noMatch p.source),
     format.bind fun f =>
      match f with
      | .dateTime => when (!Text.isTimestamp s) (.notTimestamp s)
      | .base64 => none]

/-- What is wrong with a number under the constraints of a number node. Bounds are compared as
binary64 numbers. -/
def numberViolations (integer : Bool) (min max : Option Double) (n : Double) : List Violation :=
  collect
    [when (integer && !n.isIntegral) (.notInteger n),
     min.bind fun min => when (n.lt min) (.belowMinimum n min),
     max.bind fun max => when (max.lt n) (.aboveMaximum n max)]

/-- What is wrong with the number of items of an array. -/
def itemCountViolations (length : Length) (count : Nat) : List Violation :=
  collect
    [length.min.bind fun min => when (decide (count < min.toNat)) (.tooFewItems count min),
     length.max.bind fun max => when (decide (max.toNat < count)) (.tooManyItems count max)]

/-- The kind of value that a node expects, none if it takes any. -/
def Node.expected? : Node → Option String
  | .boolean => some "boolean"
  | .string _ _ _ | .enumeration _ => some "string"
  | .number _ _ _ => some "number"
  | .array _ _ => some "array"
  | .object _ | .dictionary _ _ => some "object"
  | .union _ => some "union object"
  | .forward _ | .empty => none

/-- The violation of a value of another kind than the node expects. -/
def Node.mismatch (node : Node) (value : Json) : List Violation :=
  collect [node.expected?.map fun expected => .wrongKind expected value]

/-- The violations of a text. -/
def Node.checkText (node : Node) (s : String) : List Violation :=
  match node with
  | .string pattern length format => textViolations pattern length format s
  | .enumeration values => collect [when (!values.contains s) (.notListed s values)]
  | node => node.mismatch (.string s)

/-! ### Values with parts -/

/-- Finds the violations of one value against any node. -/
abbrev Check := Ref → List Violation

/-- The violations of items against their node, from a position on. -/
def checkItems (element : Ref) (position : Nat) : List Check → List Violation
  | [] => []
  | item :: items =>
    (item element).map (·.under (toString position)) ++ checkItems element (position + 1) items

/-- The violations of an object against members: a member that is absent or null is a violation if
it is required. -/
def checkMembers (fields : List (String × Json × Check)) :
    List (String × MemberRef) → List Violation
  | [] => []
  | (name, member) :: members =>
    let found := match fields.lookup name with
      | some (value, check) =>
        if value.isNull then (if member.required then [here .missingMember] else [])
        else check member.node
      | none => if member.required then [here .missingMember] else []
    found.map (·.under name) ++ checkMembers fields members

/-- The violations of entries: each key is checked as a text, then its value. -/
def checkEntries (model : CompiledModel) (key value : Ref) :
    List (String × Json × Check) → List Violation
  | [] => []
  | (k, _, check) :: rest =>
    ((model.node key).checkText k ++ check value).map (·.under k)
      ++ checkEntries model key value rest

/-- The violations of an object against alternatives: one field that is not null, with the name of
an alternative. -/
def checkTagged (fields : List (String × Json × Check)) (alternatives : OrderedMap Ref) :
    List Violation :=
  match fields.filter fun f => !f.2.1.isNull with
  | [(tag, _, check)] =>
    match alternatives.get? tag with
    | some ref => (check ref).map (·.under tag)
    | none => [here (.unknownAlternative tag)]
  | set => [here (.memberCount set.length)]

mutual

/-- The violations of a value against a node. -/
def Json.violations (model : CompiledModel) : Json → Check
  | .string s => fun ref => (model.node ref).checkText s
  | .number n => fun ref =>
    match model.node ref with
    | .number integer min max => numberViolations integer min max n.toDouble
    | node => node.mismatch (.number n)
  | .bool b => fun ref =>
    match model.node ref with
    | .boolean => []
    | node => node.mismatch (.bool b)
  | .null => fun ref => (model.node ref).mismatch .null
  | .array items =>
    -- The checks of the parts are made once, and applied to whatever node the value meets.
    let checks := itemChecks model items
    fun ref =>
      match model.node ref with
      | .array element length =>
        itemCountViolations length items.length ++ checkItems element 0 checks
      | node => node.mismatch (.array items)
  | .object fields =>
    let checks := fieldChecks model fields
    fun ref =>
      match model.node ref with
      | .object members => checkMembers checks members.entries
      | .dictionary key value => checkEntries model key value checks
      | .union alternatives => checkTagged checks alternatives
      | node => node.mismatch (.object fields)

/-- The checks of items. -/
def itemChecks (model : CompiledModel) : List Json → List Check
  | [] => []
  | item :: items => Json.violations model item :: itemChecks model items

/-- The fields of an object with their checks. -/
def fieldChecks (model : CompiledModel) : List (String × Json) → List (String × Json × Check)
  | [] => []
  | (key, value) :: fields => (key, value, Json.violations model value) :: fieldChecks model fields

end

namespace CompiledModel

/-- The violations of a value against the node of a reference. -/
def violations (m : CompiledModel) (root : Ref) (value : Json) : List Violation :=
  value.violations m root

/-- The violations of a value against a shape. -/
def shapeViolations (m : CompiledModel) (id : String) (value : Json) :
    Except ModelError (List Violation) :=
  match m.get? id with
  | some root => .ok (m.violations root value)
  | none => .error (.shapeNotFound id)

end CompiledModel

end ShapeSchema
