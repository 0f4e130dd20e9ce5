import ShapeSchema.OrderedMap
import ShapeSchema.Double.Basic

/-!
# `ShapeSchema.Json.Value`: JSON values

A number keeps the distinction that its text made: an integer that fits a 64-bit word stays an
integer, anything else is a binary64 number. An object is its entries in document order. The
readers insert with `Entries.insert`, so the keys of an object they return are distinct.
-/

set_option autoImplicit false

namespace ShapeSchema

/-- An integer that a signed or an unsigned 64-bit word holds: at least `-2 ^ 63`, below `2 ^ 64`.
-/
abbrev WordInt := { n : Int // -0x8000000000000000 ≤ n ∧ n < 0x10000000000000000 }

namespace Json

/-- A number: an integer that fits a word, or a binary64 number. -/
inductive Number where
  | int (n : WordInt)
  | real (x : Double)
  deriving DecidableEq, Repr

/-- The number as a binary64 number: an integer beyond `2 ^ 53` is rounded to the nearest. -/
def Number.toDouble : Number → Double
  | .int n => Double.ofInt n.val
  | .real x => x

end Json

/-- A JSON value. The fields of an object are in the order of the document. -/
inductive Json where
  | null
  | bool (b : Bool)
  | number (n : Json.Number)
  | string (s : String)
  | array (items : List Json)
  | object (fields : List (String × Json))
  deriving Repr, BEq

namespace Json

instance : Inhabited Json := ⟨.null⟩

/-- The integer, or the nearest number if no word holds it. -/
def ofInt (n : Int) : Json :=
  if h : -0x8000000000000000 ≤ n ∧ n < 0x10000000000000000 then .number (.int ⟨n, h⟩)
  else .number (.real (Double.ofInt n))

/-- A word as a number. -/
def ofWord (w : UInt64) : Json := .number (.int ⟨w.toNat, by omega, by have := w.toNat_lt; omega⟩)

/-- The name of a value's kind, as messages give it. -/
def kindName : Json → String
  | .null => "null"
  | .bool _ => "boolean"
  | .number _ => "number"
  | .string _ => "string"
  | .array _ => "array"
  | .object _ => "object"

/-- The value is null. -/
def isNull : Json → Bool
  | .null => true
  | _ => false

/-- The text of a value that is one. -/
def asString? : Json → Option String
  | .string s => some s
  | _ => none

/-- The value of a field of an object. -/
def field? (key : String) : Json → Option Json
  | .object fields => fields.lookup key
  | _ => none

end Json

end ShapeSchema
