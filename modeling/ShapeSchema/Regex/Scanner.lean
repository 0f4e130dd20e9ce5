import ShapeSchema.Regex.Error
import ShapeSchema.Unicode.Property

/-!
# `ShapeSchema.Regex.Scanner`: reading a pattern character by character

A scanner is what is left of a pattern, the number of characters before it, and what has been seen
so far of flags and groups. Its escapes and counts are read here; the parser for groups and classes
is built on top.
-/

set_option autoImplicit false

namespace ShapeSchema.Regex

/-- How far a pattern was read. -/
structure Scanner where
  rest : List Char
  pos : Nat := 0
  /-- White space and comments are skipped between tokens. -/
  ignoreBlanks : Bool := false
  /-- The names of the groups so far and where they stand. -/
  names : List (String × Span) := []

/-- Reads a part of a pattern. -/
abbrev Scan := StateT Scanner (Except SyntaxError)

namespace Scan

variable {α : Type}

/-- An error at a part of the pattern. -/
def fail (kind : ErrorKind) (start stop : Nat) : Scan α := throw ⟨kind, ⟨start, stop⟩, none⟩

/-- The position of the next character. -/
def pos : Scan Nat := return (← get).pos

/-- The next character. -/
def peek : Scan (Option Char) := return (← get).rest.head?

/-- The character after the next one. -/
def peekSecond : Scan (Option Char) := return (← get).rest.tail.head?

/-- The pattern is read to its end. -/
def atEnd : Scan Bool := return (← get).rest.isEmpty

/-- Passes `n` characters. -/
def skip (n : Nat) : Scan Unit :=
  modify fun s => { s with rest := s.rest.drop n, pos := s.pos + min n s.rest.length }

/-- Takes a character. -/
def bump : Scan Unit := skip 1

/-- How many characters of white space and comments come next. -/
def blanks (inComment : Bool) : List Char → Nat
  | [] => 0
  | c :: rest =>
    if inComment then 1 + blanks (c != '\n') rest
    else if Unicode.isWhiteSpace c then 1 + blanks false rest
    else if c = '#' then 1 + blanks true rest
    else 0

/-- Takes white space and comments, if they are to be passed over. -/
def skipBlanks : Scan Unit := do
  let s ← get
  if s.ignoreBlanks then skip (blanks false s.rest)

/-- Takes a character and the blanks behind it. -/
def bumpAndBlanks : Scan Unit := do
  bump
  skipBlanks

/-- The character after the next one and after the blanks between them. A comment is passed up to
its first character. -/
def peekPastBlanks : Scan (Option Char) := do
  let s ← get
  if s.ignoreBlanks then
    match s.rest.tail.dropWhile Unicode.isWhiteSpace with
    | '#' :: rest => return (rest.dropWhile Unicode.isWhiteSpace).head?
    | rest => return rest.head?
  else peekSecond

/-- Passes a text if it comes next. -/
def bumpIf (text : List Char) : Scan Bool := do
  if text.isPrefixOf (← get).rest then
    skip text.length
    return true
  else return false

/-! ### Counts -/

/-- The digits at this place. Blanks between them are passed. `fuel` bounds their number. -/
def digitRun : Nat → Scan (List Char)
  | 0 => return []
  | fuel + 1 => do
    match ← peek with
    | some c =>
      if c.isDigit then
        bumpAndBlanks
        return c :: (← digitRun fuel)
      else return []
    | none => return []

/-- White space before and after a count does not matter. -/
def skipWhiteSpace : Scan Unit := do
  skip ((← get).rest.takeWhile Unicode.isWhiteSpace).length

/-- The number with these decimal digits. -/
def numberOf (digits : List Char) : Nat :=
  digits.foldl (fun n d => n * 10 + (d.toNat - '0'.toNat)) 0

/-- A count of a repetition. An empty one is reported by the caller, who may still allow it. -/
def count : Scan (Except SyntaxError Nat) := do
  skipWhiteSpace
  let start ← pos
  let digits ← digitRun (← get).rest.length
  let stop ← pos
  if ((← peek).map Unicode.isWhiteSpace).getD false then
    skipWhiteSpace
    skipBlanks
  if digits.isEmpty then return .error ⟨.repetitionCountEmpty, ⟨start, stop⟩, none⟩
  else if 0x100000000 ≤ numberOf digits then return .error ⟨.decimalInvalid, ⟨start, stop⟩, none⟩
  else return .ok (numberOf digits)

/-! ### Escapes -/

/-- What an escape outside of classes can stand for. -/
inductive Primitive where
  | literal (l : Literal)
  | dot (span : Span)
  | assertion (span : Span) (kind : Assertion)
  | property (c : PropertyClass)
  | shorthand (c : ShorthandClass)

namespace Primitive

/-- Where a primitive stands. -/
def span : Primitive → Span
  | .literal l => l.span
  | .dot s | .assertion s _ => s
  | .property c => c.span
  | .shorthand c => c.span

/-- The primitive as an expression of its own. -/
def ast : Primitive → Ast
  | .literal l => .literal l
  | .dot s => .dot s
  | .assertion s k => .assertion s k
  | .property c => .property c
  | .shorthand c => .shorthand c

end Primitive

/-- The character is a hexadecimal digit. -/
def isHex (c : Char) : Bool :=
  c.isDigit || ('a' ≤ c && c ≤ 'f') || ('A' ≤ c && c ≤ 'F')

/-- The number with these hexadecimal digits. -/
def hexValue (digits : List Char) : Nat :=
  digits.foldl (fun n d =>
    n * 16 + (if d.isDigit then d.toNat - '0'.toNat else d.toLower.toNat - 'a'.toNat + 10)) 0

/-- The character with a code point, unless it is a surrogate or too large. -/
def charOf? (n : Nat) : Option Char := if n.isValidChar then some (Char.ofNat n) else none

/-- A fixed number of hexadecimal digits, the first of which comes next. -/
def hexDigits (isFirst : Bool) : Nat → Scan (List Char)
  | 0 => return []
  | n + 1 => do
    unless isFirst do bumpAndBlanks
    let here ← pos
    match ← peek with
    | none => fail .escapeUnexpectedEof here here
    | some c =>
      if isHex c then return c :: (← hexDigits false n)
      else fail .escapeHexInvalidDigit here (here + 1)

/-- Hexadecimal digits up to a closing brace, which comes next then. `fuel` bounds their number. -/
def bracedDigits (brace : Nat) : Nat → Scan (List Char)
  | 0 => do fail .escapeUnexpectedEof brace (← pos)
  | fuel + 1 => do
    bumpAndBlanks
    let here ← pos
    match ← peek with
    | none => fail .escapeUnexpectedEof brace here
    | some '}' => return []
    | some c =>
      if isHex c then return c :: (← bracedDigits brace fuel)
      else fail .escapeHexInvalidDigit here (here + 1)

/-- The character of a hexadecimal escape, whose letter comes next. A fixed-length `\x` escape may
also stand for a byte. -/
def hexEscape (start : Nat) (letter : Char) : Scan Literal := do
  bumpAndBlanks
  let here ← pos
  match ← peek with
  | none => fail .escapeUnexpectedEof here here
  | some '{' =>
    let digits ← bracedDigits here ((← get).rest.length + 1)
    let stop ← pos
    bumpAndBlanks
    if digits.isEmpty then fail .escapeHexEmpty here (← pos)
    match charOf? (hexValue digits) with
    | some c => return ⟨⟨start, ← pos⟩, c, false⟩
    | none => fail .escapeHexInvalid (here + 1) stop
  | some _ =>
    let length := if letter = 'x' then 2 else if letter = 'u' then 4 else 8
    let digits ← hexDigits true length
    bumpAndBlanks
    match charOf? (hexValue digits) with
    | some c => return ⟨⟨start, ← pos⟩, c, letter = 'x'⟩
    | none => fail .escapeHexInvalid here (← pos)

/-- The text up to a closing brace, which is passed. `fuel` bounds its length. -/
def bracedName : Nat → Scan (List Char)
  | 0 => do
    let here ← pos
    fail .escapeUnexpectedEof here here
  | fuel + 1 => do
    bumpAndBlanks
    match ← peek with
    | none =>
      let here ← pos
      fail .escapeUnexpectedEof here here
    | some '}' =>
      bump
      return []
    | some c => return c :: (← bracedName fuel)

/-- Splits a text at the first place where `separator` stands. -/
def splitAt? (separator : List Char) : List Char → List Char → Option (List Char × List Char)
  | passed, [] => if separator.isEmpty then some (passed.reverse, []) else none
  | passed, c :: rest =>
    if separator.isPrefixOf (c :: rest) then
      some (passed.reverse, (c :: rest).drop separator.length)
    else splitAt? separator (c :: passed) rest

/-- The query of a name in braces, and whether its operator negates it. -/
def propertyQuery (name : List Char) : PropertyQuery × Bool :=
  let value (p : List Char × List Char) : PropertyQuery :=
    .value (String.ofList p.1) (String.ofList p.2)
  match splitAt? ['!', '='] [] name with
  | some p => (value p, true)
  | none =>
    match splitAt? [':'] [] name with
    | some p => (value p, false)
    | none =>
      match splitAt? ['='] [] name with
      | some p => (value p, false)
      | none => (.named (String.ofList name), false)

/-- A Unicode class, whose letter comes next. -/
def propertyClass (start : Nat) (upper : Bool) : Scan PropertyClass := do
  bumpAndBlanks
  let here ← pos
  match ← peek with
  | none => fail .escapeUnexpectedEof here here
  | some '{' =>
    let name ← bracedName ((← get).rest.length + 1)
    let (query, negated) := propertyQuery name
    return ⟨⟨start, ← pos⟩, query, upper != negated⟩
  | some '\\' => fail .propertyInvalid here (here + 1)
  | some c =>
    bumpAndBlanks
    return ⟨⟨start, ← pos⟩, .named (String.singleton c), upper⟩

/-- Letters and hyphens, with blanks passed between them. `fuel` bounds their number. -/
def boundaryName : Nat → Scan (List Char)
  | 0 => return []
  | fuel + 1 => do
    match ← peek with
    | some c =>
      if c.isAlpha || c = '-' then
        bumpAndBlanks
        return c :: (← boundaryName fuel)
      else return []
    | none => return []

/-- The kind of word boundary in braces after `\b`, whose opening brace comes next. If no name can
follow, the brace is left to be read as a count. -/
def specialBoundary (start : Nat) : Scan (Option Assertion) := do
  let saved ← get
  let brace ← pos
  bumpAndBlanks
  match ← peek with
  | none => fail .wordBoundaryOrRepetitionEof start (← pos)
  | some c =>
    if !(c.isAlpha || c = '-') then
      set saved
      return none
    let contents ← pos
    let name ← boundaryName (← get).rest.length
    let stop ← pos
    if (← peek) ≠ some '}' then fail .wordBoundaryUnclosed brace stop
    bump
    match String.ofList name with
    | "start" => return some .wordStart
    | "end" => return some .wordEnd
    | "start-half" => return some .wordStartHalf
    | "end-half" => return some .wordEndHalf
    | _ => fail .wordBoundaryUnrecognized contents stop

/-- Characters with a meaning of their own, which an escape takes away. -/
def isMeta (c : Char) : Bool :=
  ['\\', '.', '+', '*', '?', '(', ')', '|', '[', ']', '{', '}', '^', '$', '#', '&', '-',
    '~'].contains c

/-- Other characters that may be escaped: ASCII that is no letter and no digit, and no angle
bracket, which makes a word boundary. -/
def isEscapable (c : Char) : Bool :=
  c.toNat < 0x80 && !c.isAlphanum && c != '<' && c != '>'

/-- The shorthand of a letter, and whether it is negated. -/
def shorthandOf? (c : Char) : Option (Shorthand × Bool) :=
  match c with
  | 'd' => some (.digit, false)
  | 'D' => some (.digit, true)
  | 's' => some (.space, false)
  | 'S' => some (.space, true)
  | 'w' => some (.word, false)
  | 'W' => some (.word, true)
  | _ => none

/-- The control character of a one-letter escape. -/
def controlOf? (c : Char) : Option Char :=
  match c with
  | 'a' => some '\x07'
  | 'f' => some '\x0c'
  | 't' => some '\t'
  | 'n' => some '\n'
  | 'r' => some '\r'
  | 'v' => some '\x0b'
  | _ => none

/-- The assertion of an escaped character. -/
def assertionOf? (c : Char) : Option Assertion :=
  match c with
  | 'A' => some .startText
  | 'z' => some .endText
  | 'B' => some .notWordBoundary
  | '<' => some .wordStart
  | '>' => some .wordEnd
  | _ => none

/-- An escape, whose backslash comes next. -/
def escape : Scan Primitive := do
  let start ← pos
  bump
  match ← peek with
  | none => fail .escapeUnexpectedEof start (← pos)
  | some c =>
    if c.isDigit then fail .backreference start (start + 2)
    if c = 'x' || c = 'u' || c = 'U' then return .literal (← hexEscape start c)
    if c = 'p' || c = 'P' then return .property (← propertyClass start (c = 'P'))
    bump
    let span : Span := ⟨start, start + 2⟩
    match shorthandOf? c with
    | some (kind, negated) => return .shorthand ⟨span, kind, negated⟩
    | none =>
      if isMeta c || isEscapable c then return .literal ⟨span, c, false⟩
      match controlOf? c with
      | some x => return .literal ⟨span, x, false⟩
      | none =>
        match assertionOf? c with
        | some kind => return .assertion span kind
        | none =>
          if c ≠ 'b' then fail .escapeUnrecognized start (start + 2)
          if (← peek) = some '{' then
            match ← specialBoundary start with
            | some kind => return .assertion ⟨start, ← pos⟩ kind
            | none => return .assertion span .wordBoundary
          else return .assertion span .wordBoundary

end Scan

end ShapeSchema.Regex
