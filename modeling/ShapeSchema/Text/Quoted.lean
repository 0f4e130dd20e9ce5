import ShapeSchema.Unicode.Property

/-!
# `ShapeSchema.Text.Quoted`: texts quoted in messages

A message shows a text between double quotes. The quote and the backslash are escaped, the control
characters with a letter get it, and whatever would not show on its own (format, unassigned, private
and separator characters, and marks that extend a character) is written by its code point.
-/

set_option autoImplicit false

namespace ShapeSchema.Text

/-- Characters without a shape of their own. The blank U+0020 is shown as it is. -/
def hidden : CharSet :=
  (CharSet.unions [Unicode.Category.union [.control, .format, .privateUse, .lineSeparator,
    .paragraphSeparator, .spaceSeparator], Unicode.unassigned,
    Unicode.graphemeExtend]).difference (.singleton 0x20)

/-- A code point in braces, in lower-case hexadecimal. -/
def codePoint (c : Char) : List Char :=
  ['\\', 'u', '\x7b'] ++ Nat.toDigits 16 c.toNat ++ ['\x7d']

/-- A character in quotes: escaped if it is a quote, a control or hidden. -/
def quoteChar (c : Char) : List Char :=
  if c = '\x00' then ['\\', '0']
  else if c = '\t' then ['\\', 't']
  else if c = '\r' then ['\\', 'r']
  else if c = '\n' then ['\\', 'n']
  else if c = '"' then ['\\', '"']
  else if c = '\\' then ['\\', '\\']
  else if hidden.contains c.toNat then codePoint c
  else [c]

/-- The text in quotes, with its escapes. -/
def quote (s : String) : String := String.ofList ('"' :: s.toList.flatMap quoteChar ++ ['"'])

/-- Quoted texts in brackets, with commas between them. -/
def quoteList (texts : List String) : String := "[" ++ ", ".intercalate (texts.map quote) ++ "]"

end ShapeSchema.Text
