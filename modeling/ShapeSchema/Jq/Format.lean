import ShapeSchema.Jq.Value

/-!
# `ShapeSchema.Jq.Format`: values as text for other notations

A format turns a value into text that can stand in JSON, HTML, a URI, a row of separated values or a
shell command.
-/

set_option autoImplicit false

namespace ShapeSchema.Jq.Format

/-- A character that cannot be taken for markup. -/
def htmlChar (c : Char) : List Char :=
  match c with
  | '<' => "&lt;".toList
  | '>' => "&gt;".toList
  | '&' => "&amp;".toList
  | '\'' => "&#39;".toList
  | '"' => "&quot;".toList
  | c => [c]

/-- A character in a URI: unreserved ones stand for themselves, all others are written byte for
byte. -/
def uriChar (c : Char) : List Char :=
  if c.isAlphanum || ['-', '_', '.', '~'].contains c then [c]
  else (String.singleton c).toUTF8.toList.flatMap fun b =>
    let digit (n : Nat) : Char := (Nat.digitChar n).toUpper
    ['%', digit (b.toNat / 16), digit (b.toNat % 16)]

/-- The digit for six bits. -/
def base64Digit (n : Nat) : Char :=
  if n < 26 then Char.ofNat ('A'.toNat + n)
  else if n < 52 then Char.ofNat ('a'.toNat + (n - 26))
  else if n < 62 then Char.ofNat ('0'.toNat + (n - 52))
  else if n = 62 then '+' else '/'

/-- Three bytes are four digits; the last digits are padded. -/
def base64 : List UInt8 → List Char
  | a :: b :: c :: rest =>
    let n := (a.toNat * 256 + b.toNat) * 256 + c.toNat
    base64Digit (n >>> 18) :: base64Digit ((n >>> 12) % 64) :: base64Digit ((n >>> 6) % 64)
      :: base64Digit (n % 64) :: base64 rest
  | [a, b] =>
    let n := (a.toNat * 256 + b.toNat) * 256
    [base64Digit (n >>> 18), base64Digit ((n >>> 12) % 64), base64Digit ((n >>> 6) % 64), '=']
  | [a] =>
    let n := a.toNat <<< 16
    [base64Digit (n >>> 18), base64Digit ((n >>> 12) % 64), '=', '=']
  | [] => []

/-- A cell of a row, whose texts `quote` writes. -/
def cell (quote : String → String) (v : Value) : Except Fault String :=
  match v with
  | .string s => .ok (quote s)
  | .null => .ok ""
  | .array _ | .object _ => fault s!"{v.text} can stand in no row"
  | v => .ok v.text

/-- A text in quotes, those inside it doubled. -/
def csvQuote (s : String) : String := "\"" ++ s.replace "\"" "\"\"" ++ "\""

/-- A text without tabs and line ends. -/
def tsvQuote (s : String) : String :=
  String.ofList (s.toList.flatMap fun c => match c with
    | '\t' => ['\\', 't']
    | '\n' => ['\\', 'n']
    | '\r' => ['\\', 'r']
    | '\\' => ['\\', '\\']
    | c => [c])

/-- A value as one word of a shell. Arrays and objects are none. -/
def shellQuote (v : Value) : Except Fault String :=
  match v with
  | .string s => .ok (String.ofList ('\'' :: s.toList.flatMap (fun c =>
      if c = '\'' then ['\'', '\\', '\'', '\''] else [c]) ++ ['\'']))
  | .array _ | .object _ => fault s!"{v.text} can stand in no command"
  | v => .ok v.text

/-- The items of an array on one line. -/
def row (v : Value) (write : Value → Except Fault String) (separator : String) :
    Except Fault String :=
  match v with
  | .array items => do return separator.intercalate (← items.mapM write)
  | v => fault s!"{v.text} is no row"

/-- The names of the formats. -/
def names : List String := ["text", "json", "html", "uri", "csv", "tsv", "sh", "base64"]

/-- The text of a value in a format. -/
def write (format : String) (v : Value) : Except Fault String :=
  match format with
  | "json" => .ok v.text
  | "html" => .ok (String.ofList (v.plainText.toList.flatMap htmlChar))
  | "uri" => .ok (String.ofList (v.plainText.toList.flatMap uriChar))
  | "csv" => row v (cell csvQuote) ","
  | "tsv" => row v (cell tsvQuote) "\t"
  | "sh" => match v with
    | .array _ => row v shellQuote " "
    | v => shellQuote v
  | "base64" => .ok (String.ofList (base64 v.plainText.toUTF8.toList))
  | _ => .ok v.plainText

end ShapeSchema.Jq.Format
