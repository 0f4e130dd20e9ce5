import ShapeSchema.Json.Value

/-!
# `ShapeSchema.Json.Pointer`: places inside a JSON value

A pointer is the list of keys and positions that lead from a value to a part of it. Written, each
segment follows a slash, and `~` and `/` inside a segment are escaped as `~0` and `~1`.
-/

set_option autoImplicit false

namespace ShapeSchema.Json

/-- Keys and positions, from the outside in. -/
abbrev Pointer := List String

namespace Pointer

/-- The tilde and the slash are escaped, and nothing else. -/
def escapeChar (c : Char) : List Char :=
  if c = '~' then ['~', '0'] else if c = '/' then ['~', '1'] else [c]

/-- A segment without slashes. -/
def escape (segment : String) : String := String.ofList (segment.toList.flatMap escapeChar)

/-- Takes the escapes out of a segment. A tilde before anything else stands for itself. -/
def unescapeChars : List Char → List Char
  | '~' :: '0' :: rest => '~' :: unescapeChars rest
  | '~' :: '1' :: rest => '/' :: unescapeChars rest
  | c :: rest => c :: unescapeChars rest
  | [] => []

/-- Each segment behind a slash. -/
def render (p : Pointer) : String := String.join (p.map fun segment => "/" ++ escape segment)

/-- The segments of a text, each of which follows a slash. `segment` is the one being read, last
character first. -/
def segments (segment : List Char) : List Char → List (List Char)
  | [] => [segment.reverse]
  | c :: rest =>
    if c = '/' then segment.reverse :: segments [] rest else segments (c :: segment) rest

/-- The pointer of a text: empty, or with a slash at its start. -/
def parse? (text : String) : Option Pointer :=
  match text.toList with
  | [] => some []
  | '/' :: rest => some ((segments [] rest).map fun s => String.ofList (unescapeChars s))
  | _ => none

/-- The position that a segment names in an array: a decimal number without leading zeros. -/
def index? (segment : String) : Option Nat :=
  match segment.toList with
  | [] => none
  | ['0'] => some 0
  | c :: rest =>
    if c != '0' && (c :: rest).all Char.isDigit then
      some ((c :: rest).foldl (fun n d => n * 10 + (d.toNat - '0'.toNat)) 0)
    else none

/-- The part that a segment leads to. -/
def step? (value : Json) (segment : String) : Option Json :=
  match value with
  | .object fields => fields.lookup segment
  | .array items => (index? segment).bind fun i => items[i]?
  | _ => none

/-- The part of a value that a pointer leads to. -/
def resolve? (p : Pointer) (value : Json) : Option Json := p.foldlM step? value

end Pointer

end ShapeSchema.Json
