import ShapeSchema.Double.Decimal
import ShapeSchema.Json.Printer
import ShapeSchema.Json.Tree

/-!
# `ShapeSchema.Jq.Value`: the values that filters work on

JSON values with three kinds of numbers: words, floating-point numbers, and decimal texts, which are
kept as they are written until they are computed with. The order of all values is that of their
kinds, and within a kind that of the values: numbers by size, texts by code points, arrays by their
items, objects by their sorted keys and then by their values.
-/

set_option autoImplicit false

namespace ShapeSchema.Jq

/-- The values that filters work on. Numbers have three forms; a decimal keeps the text that it was
written as. -/
inductive Value where
  | null
  | bool (b : Bool)
  | int (n : Int)
  | float (x : Float)
  | decimal (text : String)
  | string (s : String)
  | array (items : List Value)
  | object (fields : List (String × Value))

namespace Value

instance : Inhabited Value := ⟨.null⟩

/-! ### Numbers -/

/-- A signed 64-bit word holds the integer. -/
def isWord (n : Int) : Bool := decide (-0x8000000000000000 ≤ n ∧ n < 0x8000000000000000)

/-- An integer as a value: one that is too large for a word becomes a floating-point number. -/
def ofInt (n : Int) : Value :=
  if isWord n then .int n else .float (.ofBits (Double.ofInt n).toBits)

/-- The number that a decimal text stands for, infinite if it is too large. -/
def floatOfText (text : String) : Float :=
  match Json.ofText text with
  | .ok (.number n) => .ofBits n.toDouble.toBits
  | _ => 1.0 / 0.0

/-- The integer that a text of digits, perhaps after a minus, stands for. -/
def intOfText? (text : String) : Option Int :=
  let (negative, digits) := match text.toList with
    | '-' :: rest => (true, rest)
    | rest => (false, rest)
  if digits.isEmpty || !digits.all Char.isDigit then none
  else
    let n : Nat := digits.foldl (fun n d => n * 10 + (d.toNat - '0'.toNat)) 0
    let n : Int := if negative then -n else n
    if isWord n then some n else none

/-- A number as it is written. -/
def ofNumber (text : String) : Value :=
  match intOfText? text with
  | some n => .int n
  | none => .decimal text

/-- The number of a value, if it is one. -/
def float? : Value → Option Float
  | .int n => some (.ofBits (Double.ofInt n).toBits)
  | .float x => some x
  | .decimal text => some (floatOfText text)
  | _ => none

/-- A decimal text turned into the number that it stands for. -/
def computed : Value → Value
  | .decimal text => .float (floatOfText text)
  | v => v

/-! ### Conversion -/

mutual

/-- The value of a JSON value. -/
def ofJson : Json → Value
  | .null => .null
  | .bool b => .bool b
  | .number n => ofNumber n.text
  | .string s => .string s
  | .array items => .array (ofItems items)
  | .object fields => .object (ofFields fields)

/-- The values of items. -/
def ofItems : List Json → List Value
  | [] => []
  | item :: rest => ofJson item :: ofItems rest

/-- The values of fields. -/
def ofFields : List (String × Json) → List (String × Value)
  | [] => []
  | (key, value) :: rest => (key, ofJson value) :: ofFields rest

end

/-- The text of a floating-point number. What is no finite number has the text of null. -/
def floatText (x : Float) : String :=
  match Double.ofBits? x.toBits with
  | some x => Layout.filter.render x
  | none => "null"

mutual

/-- The JSON text of a value. -/
def text : Value → String
  | .null => "null"
  | .bool b => if b then "true" else "false"
  | .int n => toString n
  | .float x => floatText x
  | .decimal text => text
  | .string s => Json.quote s
  | .array items => "[" ++ ",".intercalate (itemTexts items) ++ "]"
  | .object fields => "\x7b" ++ ",".intercalate (fieldTexts fields) ++ "\x7d"

/-- The texts of items. -/
def itemTexts : List Value → List String
  | [] => []
  | item :: rest => text item :: itemTexts rest

/-- The texts of fields, each with its key. -/
def fieldTexts : List (String × Value) → List String
  | [] => []
  | (key, value) :: rest => (Json.quote key ++ ":" ++ text value) :: fieldTexts rest

end

/-- The text of a value inside another text: a string without its quotes. -/
def plainText : Value → String
  | .string s => s
  | v => v.text

/-- Everything but `null` and `false` counts as true. -/
def isTrue : Value → Bool
  | .null | .bool false => false
  | _ => true

/-- The name of the type of a value. -/
def typeName : Value → String
  | .null => "null"
  | .bool _ => "boolean"
  | .int _ | .float _ | .decimal _ => "number"
  | .string _ => "string"
  | .array _ => "array"
  | .object _ => "object"

/-! ### Order -/

/-- Values of different kinds are ordered by their kinds. -/
def kindRank : Value → Nat
  | .null => 0
  | .bool false => 1
  | .bool true => 2
  | .int _ | .float _ | .decimal _ => 3
  | .string _ => 4
  | .array _ => 5
  | .object _ => 6

/-- What is no number comes before all numbers, itself too. -/
def compareFloats (x y : Float) : Ordering :=
  if x.isNaN then .lt else if y.isNaN then .gt
  else if x < y then .lt else if y < x then .gt else .eq

/-- Integers are compared exactly, and other numbers as floats. -/
def compareNumbers (v w : Value) : Ordering :=
  match v, w with
  | .int m, .int n => compare m n
  | v, w => compareFloats (v.float?.getD 0.0) (w.float?.getD 0.0)

/-- The fields in the order of their keys. -/
def sortFields (fields : List (String × Value)) : List (String × Value) :=
  fields.mergeSort fun a b => a.1 ≤ b.1

/-- The order of two lists of texts. -/
def compareTexts : List String → List String → Ordering
  | [], [] => .eq
  | [], _ :: _ => .lt
  | _ :: _, [] => .gt
  | a :: as, b :: bs => (compare a b).then (compareTexts as bs)

mutual

/-- The order of values, down to a depth. -/
def compareWithin : Nat → Value → Value → Ordering
  | 0, _, _ => .eq
  | depth + 1, v, w =>
    match v, w with
    | .string s, .string t => compare s t
    | .array xs, .array ys => compareLists depth xs ys
    | .object fs, .object gs =>
      let fs := sortFields fs
      let gs := sortFields gs
      (compareTexts (fs.map Prod.fst) (gs.map Prod.fst)).then
        (compareLists depth (fs.map Prod.snd) (gs.map Prod.snd))
    | v, w =>
      if v.kindRank = 3 && w.kindRank = 3 then compareNumbers v w
      else compare v.kindRank w.kindRank

/-- Lists are compared item by item, and a shorter one comes first. -/
def compareLists : Nat → List Value → List Value → Ordering
  | _, [], [] => .eq
  | _, [], _ :: _ => .lt
  | _, _ :: _, [] => .gt
  | depth, x :: xs, y :: ys => (compareWithin depth x y).then (compareLists depth xs ys)

end

mutual

/-- How deep arrays and objects are nested. -/
def depth : Value → Nat
  | .array items => itemDepth items + 1
  | .object fields => fieldDepth fields + 1
  | _ => 0

/-- How deep items are nested. -/
def itemDepth : List Value → Nat
  | [] => 0
  | item :: rest => max (depth item) (itemDepth rest)

/-- How deep the values of fields are nested. -/
def fieldDepth : List (String × Value) → Nat
  | [] => 0
  | (_, value) :: rest => max (depth value) (fieldDepth rest)

end

/-- The order of values. -/
def compare (v w : Value) : Ordering := compareWithin (v.depth + 1) v w

/-- The first value does not come after the second. -/
def le (v w : Value) : Bool := v.compare w != .gt

/-- Equal values have the same place in the order. -/
def same (v w : Value) : Bool := v.compare w == .eq

/-- The items in order. Equal ones stay as they stand. -/
def sort (items : List Value) : List Value := items.mergeSort le

end Value

/-! ### Computing -/

/-- What a filter raises: a value. -/
abbrev Fault := Value

/-- An error with a message. -/
def fault {α : Type} (message : String) : Except Fault α := .error (.string message)

namespace Value

/-- The operations of arithmetic. -/
inductive Operation where
  | add
  | sub
  | mul
  | div
  | rem
  deriving DecidableEq, Repr

/-- The operation as it is written in a fault. -/
def Operation.symbol : Operation → String
  | .add => "+"
  | .sub => "-"
  | .mul => "*"
  | .div => "/"
  | .rem => "%"

/-- Values that an operation does not take. -/
def cannot {α : Type} (op : Operation) (v w : Value) : Except Fault α :=
  fault s!"cannot calculate {v.text} {op.symbol} {w.text}"

/-- The parts of a text between the places where a separator stands. -/
def splitText (text separator : String) : List String :=
  if text.isEmpty then []
  else if separator.isEmpty then text.toList.map String.singleton
  else text.splitOn separator

/-- Merges objects, and the objects inside them. -/
def merge : Nat → List (String × Value) → List (String × Value) → List (String × Value)
  | 0, fs, _ => fs
  | depth + 1, fs, gs =>
    gs.foldl (fun acc e =>
      match acc.lookup e.1, e.2 with
      | some (.object old), .object new => Entries.insert e.1 (.object (merge depth old new)) acc
      | _, _ => Entries.insert e.1 e.2 acc) fs

/-- A text several times over; none at all is null. -/
def repeatText (s : String) (times : Int) : Value :=
  if times ≤ 0 then .null else .string (String.join (List.replicate times.toNat s))

/-- Computes with two floating-point numbers. -/
def floatOperation (op : Operation) (x y : Float) : Float :=
  match op with
  | .add => x + y
  | .sub => x - y
  | .mul => x * y
  | .div => x / y
  | .rem =>
    let q := x / y
    x - (if q < 0.0 then q.ceil else q.floor) * y

/-- Computes with two values. Integers stay integers except in division. -/
def calculate (op : Operation) (v w : Value) : Except Fault Value :=
  match op, v.computed, w.computed with
  | .add, .null, x => .ok x
  | .add, x, .null => .ok x
  | .add, .int m, .int n => .ok (ofInt (m + n))
  | .sub, .int m, .int n => .ok (ofInt (m - n))
  | .mul, .int m, .int n => .ok (ofInt (m * n))
  | .rem, .int m, .int n => if n = 0 then cannot op v w else .ok (.int (m.tmod n))
  | .add, .string s, .string t => .ok (.string (s ++ t))
  | .add, .array xs, .array ys => .ok (.array (xs ++ ys))
  | .add, .object fs, .object gs =>
    .ok (.object (gs.foldl (fun acc e => Entries.insert e.1 e.2 acc) fs))
  | .sub, .array xs, .array ys =>
    .ok (.array (xs.filter fun x => !ys.any fun y => x.same y))
  | .mul, .string s, .int n | .mul, .int n, .string s => .ok (repeatText s n)
  | .mul, .object fs, .object gs => .ok (.object (merge (v.depth + 1) fs gs))
  | .div, .string s, .string t => .ok (.array ((splitText s t).map .string))
  | op, a, b =>
    match a.float?, b.float? with
    | some x, some y => .ok (.float (floatOperation op x y))
    | _, _ => cannot op v w

/-- The number with the other sign. -/
def negate (v : Value) : Except Fault Value :=
  match v.computed with
  | .int n => .ok (ofInt (-n))
  | .float x => .ok (.float (-x))
  | _ => fault s!"cannot negate {v.text}"

/-! ### Parts -/

/-- The place of an index, which counts from the end if it is negative. -/
def place? (index : Int) (length : Nat) : Option Nat :=
  let i := if index < 0 then index + length else index
  if 0 ≤ i ∧ i < length then some i.toNat else none

/-- A value that has no part of that name or place. -/
def cannotIndex {α : Type} (v index : Value) : Except Fault α :=
  fault s!"cannot index {v.text} with {index.text}"

/-- The items of an array, or the values of an object. -/
def parts (v : Value) : Except Fault (List Value) :=
  match v with
  | .array items => .ok items
  | .object fields => .ok (fields.map Prod.snd)
  | v => fault s!"cannot iterate over {v.text}"

/-- A bound of a slice, moved into the length. -/
def sliceBound (bound : Value) (default length : Nat) : Except Fault Nat :=
  match bound with
  | .null => .ok default
  | .int n => .ok (min (if n < 0 then n + length else n).toNat length)
  | v => fault s!"cannot slice with {v.text}"

/-- The bounds of a slice. -/
def sliceBounds (first last : Value) (length : Nat) : Except Fault (Nat × Nat) := do
  let lo ← sliceBound first 0 length
  let hi ← sliceBound last length length
  return (lo, max lo hi)

/-- A part of an array or a text, from one place to another. -/
def slice (v first last : Value) : Except Fault Value :=
  match v with
  | .array items => do
    let (lo, hi) ← sliceBounds first last items.length
    return .array ((items.take hi).drop lo)
  | .string s => do
    let (lo, hi) ← sliceBounds first last s.length
    return .string (String.ofList ((s.toList.take hi).drop lo))
  | v => fault s!"cannot slice {v.text}"

/-- The part of a value at a place or under a key. A part that is missing is null. -/
def index (v i : Value) : Except Fault Value :=
  match v, i with
  | .array items, .int n => .ok (((place? n items.length).bind fun k => items[k]?).getD .null)
  | .object fields, .string key => .ok ((fields.lookup key).getD .null)
  | v, .object range =>
    slice v ((range.lookup "start").getD .null) ((range.lookup "end").getD .null)
  | v, i => cannotIndex v i

/-- The places of an array, or the keys of an object in order. -/
def keys (v : Value) : Except Fault (List Value) :=
  match v with
  | .array items => .ok ((List.range items.length).map fun (i : Nat) => .int i)
  | .object fields => .ok ((sortFields fields).map fun e => .string e.1)
  | v => fault s!"{v.text} has no keys"

/-- Whether a value has the part. -/
def has (v key : Value) : Except Fault Bool :=
  match v, key with
  | .array items, .int n => .ok (decide (0 ≤ n ∧ n < items.length))
  | .object fields, .string key => .ok (fields.lookup key).isSome
  | v, key => cannotIndex v key

/-- How many parts a value has, and for a number its magnitude. -/
def length (v : Value) : Except Fault Value :=
  match v with
  | .null => .ok (.int 0)
  | .int n => .ok (ofInt n.natAbs)
  | .float x => .ok (.float x.abs)
  | .decimal text => .ok (.float (floatOfText text).abs)
  | .string s => .ok (.int s.length)
  | .array items => .ok (.int items.length)
  | .object fields => .ok (.int fields.length)
  | .bool _ => fault s!"{v.text} has no length"

/-- A value contains another: texts in texts, items and fields in their containers. -/
def containsWithin : Nat → Value → Value → Bool
  | 0, _, _ => false
  | depth + 1, v, w =>
    match v, w with
    | .object fs, .object gs =>
      gs.all fun g => match fs.lookup g.1 with
        | some x => containsWithin depth x g.2
        | none => false
    | .array xs, .array ys => ys.all fun y => xs.any fun x => containsWithin depth x y
    | .string s, .string t => t.isEmpty || (s.splitOn t).length > 1
    | v, w => v.same w

end Value

end ShapeSchema.Jq
