import ShapeSchema.Regex.Syntax

/-!
# `ShapeSchema.Regex.Error`: why a pattern is rejected, and how it is shown

A syntax error has a kind and a span, and for a duplicate also the span of the first occurrence.
`Error.render` shows the pattern with carets under the spans: indented by four columns if it is one
line, between rules and with line numbers if it is several. The other way to be rejected is to need
an automaton beyond the size limit.
-/

set_option autoImplicit false

namespace ShapeSchema.Regex

/-- What is wrong with a pattern. -/
inductive ErrorKind where
  | captureLimit
  | classEscapeInvalid
  | classRangeInvalid
  | classRangeLiteral
  | classUnclosed
  | decimalInvalid
  | escapeHexEmpty
  | escapeHexInvalid
  | escapeHexInvalidDigit
  | escapeUnexpectedEof
  | escapeUnrecognized
  | flagDanglingNegation
  | flagDuplicate
  | flagRepeatedNegation
  | flagUnexpectedEof
  | flagUnrecognized
  | groupNameDuplicate
  | groupNameEmpty
  | groupNameInvalid
  | groupNameUnexpectedEof
  | groupUnclosed
  | groupUnopened
  | nestLimit (limit : Nat)
  | repetitionCountInvalid
  | repetitionCountEmpty
  | repetitionCountUnclosed
  | repetitionMissing
  | wordBoundaryUnclosed
  | wordBoundaryUnrecognized
  | wordBoundaryOrRepetitionEof
  | propertyInvalid
  | backreference
  | lookAround
  | unicodeNotAllowed
  | invalidUtf8
  | propertyNotFound
  | propertyValueNotFound
  deriving DecidableEq, Repr

/-- The text of an error. -/
def ErrorKind.message : ErrorKind → String
  | .captureLimit => "exceeded the maximum number of capturing groups (4294967295)"
  | .classEscapeInvalid => "invalid escape sequence found in character class"
  | .classRangeInvalid => "invalid character class range, the start must be <= the end"
  | .classRangeLiteral => "invalid range boundary, must be a literal"
  | .classUnclosed => "unclosed character class"
  | .decimalInvalid => "decimal literal invalid"
  | .escapeHexEmpty => "hexadecimal literal empty"
  | .escapeHexInvalid => "hexadecimal literal is not a Unicode scalar value"
  | .escapeHexInvalidDigit => "invalid hexadecimal digit"
  | .escapeUnexpectedEof =>
    "incomplete escape sequence, reached end of pattern prematurely"
  | .escapeUnrecognized => "unrecognized escape sequence"
  | .flagDanglingNegation => "dangling flag negation operator"
  | .flagDuplicate => "duplicate flag"
  | .flagRepeatedNegation => "flag negation operator repeated"
  | .flagUnexpectedEof => "expected flag but got end of regex"
  | .flagUnrecognized => "unrecognized flag"
  | .groupNameDuplicate => "duplicate capture group name"
  | .groupNameEmpty => "empty capture group name"
  | .groupNameInvalid => "invalid capture group character"
  | .groupNameUnexpectedEof => "unclosed capture group name"
  | .groupUnclosed => "unclosed group"
  | .groupUnopened => "unopened group"
  | .nestLimit limit =>
    s!"exceed the maximum number of nested parentheses/brackets ({limit})"
  | .repetitionCountInvalid =>
    "invalid repetition count range, the start must be <= the end"
  | .repetitionCountEmpty => "repetition quantifier expects a valid decimal"
  | .repetitionCountUnclosed => "unclosed counted repetition"
  | .repetitionMissing => "repetition operator missing expression"
  | .wordBoundaryUnclosed =>
    "special word boundary assertion is either unclosed or contains an invalid character"
  | .wordBoundaryUnrecognized =>
    "unrecognized special word boundary assertion, valid choices are: start, end, "
      ++ "start-half or end-half"
  | .wordBoundaryOrRepetitionEof =>
    "found either the beginning of a special word boundary or a bounded repetition on a \\b "
      ++ "with an opening brace, but no closing brace"
  | .propertyInvalid => "invalid Unicode character class"
  | .backreference => "backreferences are not supported"
  | .lookAround => "look-around, including look-ahead and look-behind, is not supported"
  | .unicodeNotAllowed => "Unicode not allowed here"
  | .invalidUtf8 => "pattern can match invalid UTF-8"
  | .propertyNotFound => "Unicode property not found"
  | .propertyValueNotFound => "Unicode property value not found"

/-- What is wrong and where; `first` is where a duplicate stood before. -/
structure SyntaxError where
  kind : ErrorKind
  span : Span
  first : Option Span := none
  deriving DecidableEq, Repr

/-- Why a pattern does not compile: it is malformed, or what it stands for is too big. -/
inductive Error where
  | malformed (e : SyntaxError)
  | tooBig (limit : Nat)
  deriving DecidableEq, Repr

/-! ### Rendering -/

/-- A line and a column, both counted from 1, the column in characters. -/
structure Place where
  line : Nat
  column : Nat
  deriving DecidableEq, Repr

/-- The place of a character of the pattern. -/
def placeOf (pattern : List Char) (index : Nat) : Place :=
  (pattern.take index).foldl
    (fun p c => if c = '\n' then ⟨p.line + 1, 1⟩ else ⟨p.line, p.column + 1⟩) ⟨1, 1⟩

/-- The lines of a text. The last one may lack its end, and a carriage return before an end belongs
to the end. `line` is the one being read, last character first. -/
def splitLines (line : List Char) : List Char → List (List Char)
  | [] => if line.isEmpty then [] else [line.reverse]
  | '\r' :: '\n' :: rest => line.reverse :: splitLines [] rest
  | '\n' :: rest => line.reverse :: splitLines [] rest
  | c :: rest => splitLines (c :: line) rest

/-- A span between two places of one line. -/
structure Note where
  column : Nat
  width : Nat
  deriving DecidableEq, Repr

/-- The carets of a line's notes, from left to right, `done` columns being written. -/
def carets (done : Nat) : List Note → List Char
  | [] => []
  | n :: rest =>
    let blanks := n.column - 1 - done
    let width := max 1 n.width
    List.replicate blanks ' ' ++ List.replicate width '^' ++ carets (done + blanks + width) rest

/-- The spans of an error, first occurrence and all, in order. -/
def SyntaxError.spans (e : SyntaxError) : List Span :=
  match e.first with
  | none => [e.span]
  | some s => if s.start < e.span.start then [s, e.span] else [e.span, s]

/-- A number right-aligned in a width. -/
def alignRight (width n : Nat) : List Char :=
  let digits := Nat.toDigits 10 n
  List.replicate (width - digits.length) ' ' ++ digits

/-- The lines of a pattern with carets under those that have notes. `width` is that of the line
numbers, 0 for none; `number` is the number of the first line. -/
def annotate (width number : Nat) (notes : List (Nat × Note)) : List (List Char) → List Char
  | [] => []
  | line :: rest =>
    let lead := if width = 0 then List.replicate 4 ' ' else alignRight width number ++ [':', ' ']
    let own := (notes.filter fun n => n.1 == number).map Prod.snd
    let marks :=
      if own.isEmpty then []
      else List.replicate (if width = 0 then 4 else width + 2) ' ' ++ carets 0 own ++ ['\n']
    lead ++ line ++ '\n' :: marks ++ annotate width (number + 1) notes rest

/-- The error with the pattern, the places marked in it. -/
def SyntaxError.render (e : SyntaxError) (pattern : String) : String :=
  let chars := pattern.toList
  let lines := splitLines [] chars
  let count := lines.length + (if chars.getLast? = some '\n' then 1 else 0)
  let width := if count ≤ 1 then 0 else (Nat.toDigits 10 count).length
  let placed := e.spans.map fun s => (placeOf chars s.start, placeOf chars s.stop)
  let oneLine := placed.filter fun p => p.1.line == p.2.line
  let notes := oneLine.map fun p => (p.1.line, (⟨p.1.column, p.2.column - p.1.column⟩ : Note))
  let body := String.ofList (annotate width 1 notes lines)
  if chars.contains '\n' then
    let rule := String.ofList (List.replicate 79 '~') ++ "\n"
    let several := (placed.filter fun p => p.1.line != p.2.line).map fun p =>
      s!"on line {p.1.line} (column {p.1.column}) through line {p.2.line} (column {p.2.column - 1})"
    let remarks := if several.isEmpty then "" else "\n".intercalate several ++ "\n"
    "regex parse error:\n" ++ rule ++ body ++ rule ++ remarks ++ "error: " ++ e.kind.message
  else "regex parse error:\n" ++ body ++ "error: " ++ e.kind.message

/-- The text that reports a rejected pattern. -/
def Error.render (e : Error) (pattern : String) : String :=
  match e with
  | .malformed e => e.render pattern
  | .tooBig limit => s!"Compiled regex exceeds size limit of {limit} bytes."

end ShapeSchema.Regex
