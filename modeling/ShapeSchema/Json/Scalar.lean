import ShapeSchema.Json.Value

/-!
# `ShapeSchema.Json.Scalar`: places, faults and scalars of a JSON text

A `Cursor` is what is left of a text together with the count of UTF-8 bytes before it. Faults are
reported at such counts; `Position.ofOffset` turns one into a line and a column.

`scanString` and `scanNumber` read the two scalars that have inner structure. They are total and
give back what follows the scalar, or a hard fault when nothing can follow.
-/

set_option autoImplicit false

namespace ShapeSchema.Json

/-- What can be wrong with a JSON text. -/
inductive Fault where
  | eofInList
  | eofInObject
  | eofInString
  | eofInValue
  | expectedColon
  | expectedListComma
  | expectedObjectComma
  | expectedIdent
  | expectedValue
  | invalidEscape
  | invalidNumber
  | numberOutOfRange
  | controlCharacter
  | keyNotString
  | loneSurrogate
  | trailingComma
  | trailingCharacters
  | unpairedEscape
  | recursionLimit
  deriving DecidableEq, Repr

/-- The text of a fault. -/
def Fault.message : Fault → String
  | .eofInList => "EOF while parsing a list"
  | .eofInObject => "EOF while parsing an object"
  | .eofInString => "EOF while parsing a string"
  | .eofInValue => "EOF while parsing a value"
  | .expectedColon => "expected `:`"
  | .expectedListComma => "expected `,` or `]`"
  | .expectedObjectComma => "expected `,` or `\x7d`"
  | .expectedIdent => "expected ident"
  | .expectedValue => "expected value"
  | .invalidEscape => "invalid escape"
  | .invalidNumber => "invalid number"
  | .numberOutOfRange => "number out of range"
  | .controlCharacter => "control character (\\u0000-\\u001F) found while parsing a string"
  | .keyNotString => "key must be a string"
  | .loneSurrogate => "lone leading surrogate in hex escape"
  | .trailingComma => "trailing comma"
  | .trailingCharacters => "trailing characters"
  | .unpairedEscape => "unexpected end of hex escape"
  | .recursionLimit => "recursion limit exceeded"

/-- A fault and the count of bytes at which it is reported. -/
structure SyntaxError where
  fault : Fault
  offset : Nat
  deriving DecidableEq, Repr

/-- A fault that ends the reading, as a reader that wants the value words it and as one that skips
the value does. -/
structure HardFault where
  reading : SyntaxError
  skipping : SyntaxError
  deriving DecidableEq, Repr

/-- A fault that is the same in reading and in skipping. -/
def HardFault.both (e : SyntaxError) : HardFault := ⟨e, e⟩

/-- From the first byte of a value to the byte after its last. -/
structure Span where
  start : Nat
  stop : Nat
  deriving DecidableEq, Repr

/-- A line, counted from 1, and the bytes of that line up to the place. -/
structure Position where
  line : Nat
  column : Nat
  deriving DecidableEq, Repr

/-- The position that a count of bytes has in a text. -/
def Position.ofOffset (text : String) (offset : Nat) : Position :=
  go text.toList 0 1 0
where
  /-- `seen` bytes are passed, and line `line` started after `lineStart` of them. -/
  go : List Char → Nat → Nat → Nat → Position
    | [], _, line, lineStart => ⟨line, offset - lineStart⟩
    | c :: rest, seen, line, lineStart =>
      if offset ≤ seen then ⟨line, offset - lineStart⟩
      else if c = '\n' then go rest (seen + 1) (line + 1) (seen + 1)
      else go rest (seen + c.utf8Size) line lineStart

/-- The text of a fault with its line and column. -/
def SyntaxError.message (e : SyntaxError) (text : String) : String :=
  let p := Position.ofOffset text e.offset
  s!"{e.fault.message} at line {p.line} column {p.column}"

/-! ### Cursors -/

/-- What is left of a text, and the count of bytes before it. -/
structure Cursor where
  rest : List Char
  offset : Nat

namespace Cursor

/-- The place after the next character. -/
def next (c : Cursor) : Cursor :=
  match c.rest with
  | [] => c
  | x :: rest => ⟨rest, c.offset + x.utf8Size⟩

/-- A fault at this place. -/
def fault (c : Cursor) (f : Fault) : HardFault := .both ⟨f, c.offset⟩

/-- The place of a fault found by looking at the next character: the byte after this one. -/
def peekOffset (c : Cursor) : Nat := if c.rest.isEmpty then c.offset else c.offset + 1

/-- A fault found by looking at the next character, with its wording in a skipped value. -/
def peekFaults (c : Cursor) (reading skipping : Fault) : HardFault :=
  ⟨⟨reading, c.peekOffset⟩, ⟨skipping, c.peekOffset⟩⟩

/-- A fault at the character that comes next. -/
def peekFault (c : Cursor) (f : Fault) : HardFault := c.peekFaults f f

/-- Space, line feed, tab or carriage return. -/
def isBlank (c : Char) : Bool := c = ' ' || c = '\n' || c = '\t' || c = '\r'

/-- Blanks are ASCII, one byte each. -/
def skipBlanks (c : Cursor) : Cursor :=
  ⟨c.rest.dropWhile isBlank, c.offset + (c.rest.takeWhile isBlank).length⟩

end Cursor

/-! ### Strings -/

/-- The value of a hexadecimal digit. -/
def hexDigit? (c : Char) : Option Nat :=
  if '0' ≤ c ∧ c ≤ '9' then some (c.toNat - '0'.toNat)
  else if 'a' ≤ c ∧ c ≤ 'f' then some (c.toNat - 'a'.toNat + 10)
  else if 'A' ≤ c ∧ c ≤ 'F' then some (c.toNat - 'A'.toNat + 10)
  else none

/-- The four digits of a `\u` escape. They count as bytes: a longer character among them is no
digit, and fewer than four bytes are the end of the text. -/
def scanHex (c : Cursor) : Except HardFault (Nat × Cursor) :=
  match c.rest with
  | d₁ :: d₂ :: d₃ :: d₄ :: rest =>
    match hexDigit? d₁, hexDigit? d₂, hexDigit? d₃, hexDigit? d₄ with
    | some a, some b, some c', some d =>
      .ok (((a * 16 + b) * 16 + c') * 16 + d, ⟨rest, c.offset + 4⟩)
    | _, _, _, _ => .error (.both ⟨.invalidEscape, c.offset + 4⟩)
  | rest =>
    let bytes := (String.ofList rest).utf8ByteSize
    if 4 ≤ bytes then .error (.both ⟨.invalidEscape, c.offset + 4⟩)
    else .error (.both ⟨.eofInString, c.offset + bytes⟩)

/-- The character of a one-letter escape. -/
def simpleEscape? (c : Char) : Option Char :=
  match c with
  | '"' => some '"'
  | '\\' => some '\\'
  | '/' => some '/'
  | 'b' => some '\x08'
  | 'f' => some '\x0c'
  | 'n' => some '\n'
  | 'r' => some '\r'
  | 't' => some '\t'
  | _ => none

/-- The character of a `\u` escape, whose digits come next. Half a surrogate pair is a deferred
fault. -/
def scanUnicodeEscape (c : Cursor) :
    Except HardFault (Except SyntaxError Char × Cursor) := do
  let (n, d) ← scanHex c
  if 0xDC00 ≤ n ∧ n ≤ 0xDFFF then return (.error ⟨.loneSurrogate, d.offset⟩, d)
  if n < 0xD800 ∨ 0xDBFF < n then return (.ok (Char.ofNat n), d)
  match d.rest with
  | [] => throw (d.fault .eofInString)
  | '\\' :: 'u' :: _ =>
    let (m, e) ← scanHex d.next.next
    if 0xDC00 ≤ m ∧ m ≤ 0xDFFF then
      return (.ok (Char.ofNat (0x10000 + (n - 0xD800) * 0x400 + (m - 0xDC00))), e)
    else return (.error ⟨.loneSurrogate, e.offset⟩, e)
  | '\\' :: [] => throw (d.next.fault .eofInString)
  | '\\' :: _ :: _ => return (.error ⟨.unpairedEscape, d.offset + 2⟩, d)
  | _ :: _ => return (.error ⟨.unpairedEscape, d.offset + 1⟩, d)

/-- A hard fault after a deferred one counts in skipping only. -/
def HardFault.after (fault : HardFault) {α : Type} : Except SyntaxError α → HardFault
  | .ok _ => fault
  | .error e => ⟨e, fault.skipping⟩

/-- The rest of a string whose opening quote is read. `text` holds the characters so far, last
first; `fuel` bounds the escapes and characters left. -/
def scanStringFrom : Nat → Cursor → Except SyntaxError (List Char) →
    Except HardFault (Except SyntaxError (List Char) × Cursor)
  | 0, c, _ => .error (c.fault .eofInString)
  | fuel + 1, c, text =>
    match c.rest with
    | [] => .error ((c.fault .eofInString).after text)
    | '"' :: _ => .ok (text, c.next)
    | '\\' :: [] => .error ((c.next.fault .eofInString).after text)
    | '\\' :: 'u' :: _ =>
      match scanUnicodeEscape c.next.next with
      | .error fault => .error (fault.after text)
      | .ok (x, d) =>
        scanStringFrom fuel d (match text, x with
          | .ok cs, .ok x => .ok (x :: cs)
          | .ok _, .error e => .error e
          | .error e, _ => .error e)
    | '\\' :: x :: _ =>
      match simpleEscape? x with
      | some y => scanStringFrom fuel c.next.next (text.map (y :: ·))
      | none => .error ((HardFault.both ⟨.invalidEscape, c.offset + 2⟩).after text)
    | x :: _ =>
      if x.toNat < 0x20 then
        .error ((⟨⟨.controlCharacter, c.offset + 1⟩, ⟨.controlCharacter, c.offset⟩⟩ :
          HardFault).after text)
      else scanStringFrom fuel c.next (text.map (x :: ·))

/-- The rest of a string whose opening quote is read. -/
def scanString (c : Cursor) : Except HardFault (Except SyntaxError String × Cursor) :=
  match scanStringFrom (c.rest.length + 1) c (.ok []) with
  | .ok (text, d) => .ok (text.map fun cs => String.ofList cs.reverse, d)
  | .error fault => .error fault

/-! ### Numbers -/

/-- The powers of ten by which a significand is scaled in one step. -/
def powerOfTen (n : Nat) : Double := Double.ofInt (Nat.pow 10 n)

/-- The significand scaled by a power of ten: one rounding for the significand and one for each
scaling, of at most 308 places. None if the number is out of range. `fuel` bounds the number of
scalings. -/
def scaleByTen : Nat → Double → Int → Option Double
  | 0, x, _ => some x
  | fuel + 1, x, exponent =>
    if exponent.natAbs ≤ 308 then
      if 0 ≤ exponent then x.mul? (powerOfTen exponent.natAbs)
      else x.div? (powerOfTen exponent.natAbs)
    else if x.significand = 0 then some x
    else if 0 ≤ exponent then none
    else
      match x.div? (powerOfTen 308) with
      | some y => scaleByTen fuel y (exponent + 308)
      | none => none

/-- The nearest double that a significand below `2 ^ 64` and a decimal exponent give. Four scalings
take any such significand to zero. -/
def realOfParts (negative : Bool) (significand : Nat) (exponent : Int) : Option Double :=
  (scaleByTen 5 (Double.ofInt significand) exponent).map fun x => if negative then x.neg else x

/-- Decimal digits as a number; a digit that would take it to `2 ^ 64` or beyond is left, with all
that follow. -/
def accumulate (significand : Nat) : List Char → Nat × List Char
  | [] => (significand, [])
  | d :: ds =>
    let n := significand * 10 + (d.toNat - '0'.toNat)
    if n < 0x10000000000000000 then accumulate n ds else (significand, d :: ds)

/-- The parts of a number's text. -/
structure NumberText where
  negative : Bool
  whole : List Char
  fraction : Option (List Char)
  /-- The sign and the digits. -/
  exponent : Option (Bool × List Char)

/-- A decimal exponent beyond this is not read: the number is zero or out of range. -/
def exponentLimit : Nat := 0x7FFFFFFF

/-- The significand and its decimal exponent before the written exponent is applied. Digits beyond
`2 ^ 64` move the exponent if they stand before the point, and are dropped after it. -/
def NumberText.significand (t : NumberText) : Nat × Int :=
  let (n, beyond) := accumulate 0 t.whole
  match t.fraction with
  | none => (n, beyond.length)
  | some ds =>
    let (m, dropped) := accumulate n ds
    (m, (beyond.length : Int) - (ds.length - dropped.length : Nat))

/-- The digits of an exponent up to the first that takes it beyond the limit; none if there is no
such digit. The count is the digits read. -/
def overlongExponent? (digits : List Char) : Option Nat :=
  go 0 1 digits
where
  go (n count : Nat) : List Char → Option Nat
    | [] => none
    | d :: ds =>
      let m := n * 10 + (d.toNat - '0'.toNat)
      if exponentLimit < m then some count else go m (count + 1) ds

/-- An integer that fits a word stays one, except for `-0`. -/
def NumberText.number (t : NumberText) (start stop : Nat) : Except SyntaxError Number :=
  let (n, shift) := t.significand
  let real (exponent : Int) (place : Nat) : Except SyntaxError Number :=
    match realOfParts t.negative n exponent with
    | some x => .ok (.real x)
    | none => .error ⟨.numberOutOfRange, place⟩
  match t.exponent with
  | some (down, digits) =>
    let written := digits.foldl (fun acc d => acc * 10 + (d.toNat - '0'.toNat)) 0
    match overlongExponent? digits with
    | some count =>
      if n ≠ 0 ∧ ¬ down then
        .error ⟨.numberOutOfRange, stop - digits.length + count⟩
      else .ok (.real (if t.negative then Double.zero.neg else Double.zero))
    | none => real (if down then shift - written else shift + written) stop
  | none =>
    if t.fraction.isSome then real shift stop
    else if shift ≠ 0 then real shift stop
    else
      let value : Int := if t.negative then -(n : Int) else n
      if h : -0x8000000000000000 ≤ value ∧ value < 0x10000000000000000 then
        if t.negative ∧ n = 0 then .ok (.real Double.zero.neg) else .ok (.int ⟨value, h⟩)
      else real 0 (max start stop)

/-- The digits at a place. -/
def scanDigits (c : Cursor) : List Char × Cursor :=
  let digits := c.rest.takeWhile Char.isDigit
  (digits, ⟨c.rest.drop digits.length, c.offset + digits.length⟩)

/-- A number faulty in its form. Skipping words it the same way at the end of the text as before
another character. -/
def numberFault (reading : Fault) (offset : Nat) : HardFault :=
  ⟨⟨reading, offset⟩, ⟨.invalidNumber, offset⟩⟩

/-- The digits of an exponent, whose letter comes next. -/
def scanExponent (c : Cursor) : Except HardFault ((Bool × List Char) × Cursor) :=
  let c := c.next
  let (down, c) := match c.rest with
    | '+' :: _ => (false, c.next)
    | '-' :: _ => (true, c.next)
    | _ => (false, c)
  match scanDigits c with
  | ([], d) =>
    if d.rest.isEmpty then .error (numberFault .eofInValue d.offset)
    else .error (numberFault .invalidNumber (d.offset + 1))
  | (digits, d) => .ok ((down, digits), d)

/-- A number, whose sign or first digit comes next. A number out of range is a deferred fault. -/
def scanNumber (c : Cursor) : Except HardFault (Except SyntaxError Number × Cursor) := do
  let start := c.offset
  let (negative, c) := match c.rest with
    | '-' :: _ => (true, c.next)
    | _ => (false, c)
  let (whole, d) := scanDigits c
  match whole with
  | [] =>
    if c.rest.isEmpty then throw (numberFault .eofInValue c.offset)
    else throw (numberFault .invalidNumber (c.offset + 1))
  -- Only zero itself begins with a zero.
  | '0' :: _ :: _ => throw (.both ⟨.invalidNumber, c.offset + 2⟩)
  | _ => pure ()
  let (fraction, d) ← match d.rest with
    | '.' :: _ =>
      match scanDigits d.next with
      | ([], e) =>
        let cause := if e.rest.isEmpty then .eofInValue else .invalidNumber
        throw (numberFault cause e.peekOffset)
      | (digits, e) => pure (some digits, e)
    | _ => pure (none, d)
  match d.rest with
  | 'e' :: _ | 'E' :: _ =>
    let (exponent, d) ← scanExponent d
    return (NumberText.number ⟨negative, whole, fraction, some exponent⟩ start d.offset, d)
  | _ => return (NumberText.number ⟨negative, whole, fraction, none⟩ start d.offset, d)

end ShapeSchema.Json
