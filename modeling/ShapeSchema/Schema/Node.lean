import ShapeSchema.Double.Basic
import ShapeSchema.OrderedMap
import ShapeSchema.Regex.Pattern

/-!
# `ShapeSchema.Schema.Node`: compiled schema nodes

A node says which JSON values it admits. Nodes that lead to other nodes hold references: positions
in the arena of the compiled model, never copies. That is how a recursive shape becomes a finite
model.
-/

set_option autoImplicit false

namespace ShapeSchema

/-- A position in an arena of nodes. -/
structure Ref where
  index : Nat
  deriving DecidableEq, Repr

/-- How a string encodes a value of another kind. -/
inductive Format where
  | dateTime
  | base64
  deriving DecidableEq, Repr

/-- The bounds of a length, as words. -/
structure Length where
  min : Option UInt64 := none
  max : Option UInt64 := none
  deriving DecidableEq, Repr


/-- A member of an object: its node, and whether it has to be there. -/
structure MemberRef where
  node : Ref
  required : Bool
  deriving DecidableEq, Repr

/-- The schema of a shape. It refers to the schemas of other shapes by their places. -/
inductive Node where
  /-- Stands for a shape whose node is still being built. No finished model holds one. -/
  | forward (id : String)
  | boolean
  | string (pattern : Option Regex) (length : Length) (format : Option Format)
  | number (integer : Bool) (min max : Option Double)
  | array (element : Ref) (length : Length)
  | object (members : OrderedMap MemberRef)
  | dictionary (key value : Ref)
  | enumeration (values : List String)
  /-- Exactly one alternative is set, and its name tags it. -/
  | union (alternatives : OrderedMap Ref)
  /-- Nothing to check: services and operations. -/
  | empty

namespace Node

instance : Inhabited Node := ⟨.empty⟩

/-- A string without constraints. -/
def plainString : Node := .string none {} none

/-- The nodes that lead to other nodes. -/
def isAggregate : Node → Bool
  | .array _ _ | .object _ | .dictionary _ _ | .union _ => true
  | _ => false

/-- The nodes that a node leads to, in order. -/
def children : Node → List Ref
  | .array element _ => [element]
  | .object members => members.values.map (·.node)
  | .dictionary key value => [key, value]
  | .union alternatives => alternatives.values
  | _ => []

end Node

end ShapeSchema
