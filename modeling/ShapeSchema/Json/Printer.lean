import ShapeSchema.Double.Decimal
import ShapeSchema.Json.Value

/-!
# `ShapeSchema.Json.Printer`: compact and indented JSON text

`Json.compact` writes no space at all; `Json.pretty` puts each item and field on a line of its own,
indented by two spaces a level, and keeps an empty array or object on one line. Both escape the
quote, the backslash and the control characters below U+0020, and nothing else.
-/

set_option autoImplicit false

namespace ShapeSchema.Json

/-- The two lower-case hexadecimal digits of a byte. -/
private def hexByte (n : Nat) : List Char :=
  [Nat.digitChar (n / 16 % 16), Nat.digitChar (n % 16)]

/-- A character inside a JSON string. -/
def escapeChar (c : Char) : List Char :=
  if c = '"' then ['\\', '"']
  else if c = '\\' then ['\\', '\\']
  else if c = '\n' then ['\\', 'n']
  else if c = '\r' then ['\\', 'r']
  else if c = '\t' then ['\\', 't']
  else if c = '\x08' then ['\\', 'b']
  else if c = '\x0c' then ['\\', 'f']
  else if c.toNat < 0x20 then ['\\', 'u', '0', '0'] ++ hexByte c.toNat
  else [c]

/-- The text in quotes, with its escapes. -/
def quote (s : String) : String :=
  String.ofList ('"' :: s.toList.flatMap escapeChar ++ ['"'])

/-- An integer in its digits, and another number as the shortest text that is read back as it. -/
def Number.text : Number → String
  | .int n => toString n.val
  | .real x => x.json

mutual

/-- The value on one line, without spaces. -/
def compact : Json → String
  | .null => "null"
  | .bool true => "true"
  | .bool false => "false"
  | .number n => n.text
  | .string s => quote s
  | .array items => "[" ++ ",".intercalate (compactItems items) ++ "]"
  | .object fields => "\x7b" ++ ",".intercalate (compactFields fields) ++ "\x7d"

/-- The items of an array, each on its own. -/
def compactItems : List Json → List String
  | [] => []
  | item :: rest => compact item :: compactItems rest

/-- The fields of an object, each with its key. -/
def compactFields : List (String × Json) → List String
  | [] => []
  | (key, value) :: rest => (quote key ++ ":" ++ compact value) :: compactFields rest

end

/-- A line break and the indentation of a level. -/
def breakLine (level : Nat) : String := "\n" ++ String.ofList (List.replicate (2 * level) ' ')

mutual

/-- The indented text of a value that stands at `level`. -/
def indented (level : Nat) : Json → String
  | .array [] => "[]"
  | .array items =>
    "[" ++ ",".intercalate (indentedItems (level + 1) items) ++ breakLine level ++ "]"
  | .object [] => "\x7b\x7d"
  | .object fields =>
    "\x7b" ++ ",".intercalate (indentedFields (level + 1) fields) ++ breakLine level ++ "\x7d"
  | .null => "null"
  | .bool true => "true"
  | .bool false => "false"
  | .number n => n.text
  | .string s => quote s

/-- The items, each on a line of its own. -/
def indentedItems (level : Nat) : List Json → List String
  | [] => []
  | item :: rest => (breakLine level ++ indented level item) :: indentedItems level rest

/-- The fields, each on a line of its own. -/
def indentedFields (level : Nat) : List (String × Json) → List String
  | [] => []
  | (key, value) :: rest =>
    (breakLine level ++ quote key ++ ": " ++ indented level value) :: indentedFields level rest

end

/-- The value on lines of its own, indented by two spaces a level. -/
def pretty (value : Json) : String := indented 0 value

end ShapeSchema.Json
