import ShapeSchema.Jq.Format
import ShapeSchema.Jq.Value
import ShapeSchema.Regex.Pattern

/-!
# `ShapeSchema.Jq.Builtin`: filters that work on whole values

Each of these takes an input and the values of its arguments, and has a list of outputs. The
filters that are written in the language itself are in `ShapeSchema.Jq.Prelude`, and those that take
filters as arguments are part of the evaluator.
-/

set_option autoImplicit false

namespace ShapeSchema.Jq

/-- A filter with so many arguments. -/
structure Builtin where
  name : String
  arity : Nat
  run : Value → List Value → Except Fault (List Value)

namespace Builtin

/-- A filter without arguments and with one output. -/
def plain (name : String) (f : Value → Except Fault Value) : Builtin :=
  ⟨name, 0, fun v _ => do return [← f v]⟩

/-- A filter with one argument and one output. -/
def unary (name : String) (f : Value → Value → Except Fault Value) : Builtin :=
  ⟨name, 1, fun v args => match args with
    | a :: _ => do return [← f v a]
    | [] => .ok []⟩

/-- A filter on texts. -/
def onText (name : String) (f : String → Except Fault Value) : Builtin :=
  plain name fun v => match v with
    | .string s => f s
    | v => fault s!"{v.text} is no text"

/-- A filter on texts with a text as its argument. -/
def onTexts (name : String) (f : String → String → Except Fault Value) : Builtin :=
  unary name fun v a => match v, a with
    | .string s, .string t => f s t
    | .string _, a => fault s!"{a.text} is no text"
    | v, _ => fault s!"{v.text} is no text"

/-- A filter on numbers. -/
def onFloat (name : String) (f : Float → Float) : Builtin :=
  plain name fun v => match v.float? with
    | some x => .ok (.float (f x))
    | none => fault s!"{v.text} is no number"

/-- Rounds a number to an integer. -/
def rounding (name : String) (f : Float → Float) : Builtin :=
  plain name fun v => match v.computed with
    | .int n => .ok (.int n)
    | .float x =>
      let y := f x
      match Double.ofBits? y.toBits with
      | some d => if Value.isWord d.toInt then .ok (.int d.toInt) else .ok (.float y)
      | none => .ok (.float y)
    | v => fault s!"{v.text} is no number"

/-- The text after a start, or the whole of it. -/
def dropStart (s start : String) : String :=
  if start.toList.isPrefixOf s.toList then String.ofList (s.toList.drop start.length) else s

/-- The text before an end, or the whole of it. -/
def dropEnd (s stop : String) : String :=
  if stop.toList.reverse.isPrefixOf s.toList.reverse then
    String.ofList (s.toList.take (s.length - stop.length))
  else s

/-- The text after leading white space. -/
def trimStart (s : String) : String := String.ofList (s.toList.dropWhile Unicode.isWhiteSpace)

/-- The text before trailing white space. -/
def trimEnd (s : String) : String :=
  String.ofList (s.toList.reverse.dropWhile Unicode.isWhiteSpace).reverse

/-- The character of a number, if it is one's code point. -/
def codePoint (v : Value) : Except Fault Char :=
  match v with
  | .int n =>
    if 0 ≤ n ∧ n.toNat.isValidChar then .ok (Char.ofNat n.toNat)
    else fault s!"{v.text} is no code point"
  | v => fault s!"{v.text} is no code point"

/-- The places where a part stands in a list. -/
def places {α : Type} (same : α → α → Bool) (part : List α) : Nat → List α → List Nat
  | _, [] => []
  | i, x :: rest =>
    let here := !part.isEmpty && part.length ≤ rest.length + 1
      && (part.zip (x :: rest)).all fun p => same p.1 p.2
    if here then i :: places same part (i + 1) rest else places same part (i + 1) rest

/-- Where a part begins in a text or an array. -/
def indices (v part : Value) : Except Fault Value :=
  let positions (is : List Nat) : Value := .array (is.map fun (i : Nat) => .int i)
  match v, part with
  | .null, _ => .ok .null
  | .string s, .string t => .ok (positions (places (· == ·) t.toList 0 s.toList))
  | .array xs, .array ys => .ok (positions (places Value.same ys 0 xs))
  | .array xs, y => .ok (positions (places Value.same [y] 0 xs))
  | v, part => Value.cannotIndex v part

/-- All paths into a value but the empty one, down to a depth. -/
def pathsWithin : Nat → Value → List (List Value)
  | 0, _ => []
  | depth + 1, v =>
    let steps : List (Value × Value) := match v with
      | .array items => items.zipIdx.map fun (x, i) => (.int i, x)
      | .object fields => fields.map fun (k, x) => (.string k, x)
      | _ => []
    steps.flatMap fun (key, x) => [key] :: (pathsWithin depth x).map (key :: ·)

/-- The part that a path leads to; beyond the end of a value it is null. -/
def getPath (v : Value) : List Value → Except Fault Value
  | [] => .ok v
  | key :: path =>
    match v with
    | .null => .ok .null
    | v => do getPath (← v.index key) path

/-- The values by the keys that they are sorted by. -/
def group : List (Value × Value) → List (List Value)
  | [] => []
  | (key, v) :: rest =>
    match rest, group rest with
    | (next, _) :: _, g :: groups =>
      if key.same next then (v :: g) :: groups else [v] :: g :: groups
    | _, groups => [v] :: groups

/-- The filters that are there without being defined. -/
def table : List Builtin :=
  [plain "not" fun v => .ok (.bool !v.isTrue),
   plain "type" fun v => .ok (.string v.typeName),
   plain "length" Value.length,
   plain "keys" fun v => do return .array (← v.keys),
   plain "keys_unsorted" fun v => match v with
     | .object fields => .ok (.array (fields.map fun e => .string e.1))
     | v => do return .array (← v.keys),
   unary "has" fun v key => do return .bool (← v.has key),
   unary "contains" fun v w => .ok (.bool (v.containsWithin (v.depth + 1) w)),
   plain "tojson" fun v => .ok (.string v.text),
   onText "fromjson" fun s => match Json.ofText s with
     | .ok v => .ok (.ofJson v)
     | .error _ => fault s!"{Json.quote s} is no JSON text",
   plain "tonumber" fun v => match v with
     | .int _ | .float _ | .decimal _ => .ok v
     | .string s => match Json.ofText s with
       | .ok (.number _) => .ok (.ofNumber s)
       | _ => fault s!"{v.text} is no number"
     | v => fault s!"{v.text} is no number",
   plain "sort" fun v => match v with
     | .array items => .ok (.array (Value.sort items))
     | v => fault s!"{v.text} is no array",
   plain "reverse" fun v => match v with
     | .null => .ok (.array [])
     | .array items => .ok (.array items.reverse)
     | .string s => .ok (.string (String.ofList s.toList.reverse))
     | v => fault s!"{v.text} is no array",
   rounding "floor" Float.floor, rounding "ceil" Float.ceil, rounding "round" Float.round,
   onFloat "sqrt" Float.sqrt, onFloat "exp" Float.exp, onFloat "log" Float.log,
   onFloat "log2" Float.log2, onFloat "log10" Float.log10, onFloat "exp2" Float.exp2,
   onFloat "sin" Float.sin, onFloat "cos" Float.cos, onFloat "tan" Float.tan,
   onFloat "asin" Float.asin, onFloat "acos" Float.acos, onFloat "atan" Float.atan,
   onFloat "sinh" Float.sinh, onFloat "cosh" Float.cosh, onFloat "tanh" Float.tanh,
   onFloat "cbrt" Float.cbrt, onFloat "fabs" Float.abs,
   onFloat "trunc" fun x => if x < 0.0 then x.ceil else x.floor,
   ⟨"pow", 2, fun _ args => match args.map Value.float? with
     | [some x, some y] => .ok [.float (x ^ y)]
     | _ => fault "a power of what is no number"⟩,
   onText "explode" fun s => .ok (.array (s.toList.map fun c => .int c.toNat)),
   plain "implode" fun v => match v with
     | .array items => do return .string (String.ofList (← items.mapM codePoint))
     | v => fault s!"{v.text} is no array",
   onText "ascii_downcase" fun s => .ok (.string (s.map Char.toLower)),
   onText "ascii_upcase" fun s => .ok (.string (s.map Char.toUpper)),
   onText "trim" fun s => .ok (.string (trimEnd (trimStart s))),
   onText "ltrim" fun s => .ok (.string (trimStart s)),
   onText "rtrim" fun s => .ok (.string (trimEnd s)),
   onText "utf8bytelength" fun s => .ok (.int s.utf8ByteSize),
   onTexts "startswith" fun s t => .ok (.bool (t.toList.isPrefixOf s.toList)),
   onTexts "endswith" fun s t => .ok (.bool (t.toList.reverse.isPrefixOf s.toList.reverse)),
   unary "ltrimstr" fun v w => match v, w with
     | .string s, .string t => .ok (.string (dropStart s t))
     | v, _ => .ok v,
   unary "rtrimstr" fun v w => match v, w with
     | .string s, .string t => .ok (.string (dropEnd s t))
     | v, _ => .ok v,
   onTexts "split" fun s t => .ok (.array ((Value.splitText s t).map .string)),
   onTexts "test" fun s t => match Regex.compile t with
     | .ok r => .ok (.bool (r.isMatch s))
     | .error e => fault (e.render t),
   unary "indices" indices,
   ⟨"paths", 0, fun v _ => .ok ((pathsWithin (v.depth + 1) v).map .array)⟩,
   unary "getpath" fun v p => match p with
     | .array path => getPath v path
     | p => fault s!"{p.text} is no path",
   ⟨"error", 1, fun _ args => .error (args.headD .null)⟩,
   ⟨"empty", 0, fun _ _ => .ok []⟩]

/-- The filter with a name and a number of arguments. -/
def find? (name : String) (arity : Nat) : Option Builtin :=
  table.find? fun b => b.name == name && b.arity == arity

end Builtin

end ShapeSchema.Jq
