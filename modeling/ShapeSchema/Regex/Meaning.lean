import ShapeSchema.Regex.Core
import ShapeSchema.Regex.Error
import ShapeSchema.Unicode.Casing
import ShapeSchema.Unicode.Lookup

/-!
# `ShapeSchema.Regex.Meaning`: what a syntax tree means under its flags

`Ast.core` walks a tree from left to right and carries the flags along: a change of flags holds up
to the end of the group it stands in, across the bars of an alternation too.

A pattern matches text, so nothing in it may match a part of a character. Where Unicode is switched
off a class reads bytes, and one that reaches beyond ASCII is refused.
-/

set_option autoImplicit false

namespace ShapeSchema.Regex

/-- The flags that change what an expression matches. -/
structure Flags where
  caseInsensitive : Bool := false
  multiLine : Bool := false
  dotMatchesNewLine : Bool := false
  unicode : Bool := true
  crlf : Bool := false
  deriving DecidableEq, Repr

namespace Flags

/-- The flags after a change. A flag that the change does not name stays as it is. -/
def apply (f : Flags) (c : FlagChange) : Flags where
  caseInsensitive := (c.state? .caseInsensitive).getD f.caseInsensitive
  multiLine := (c.state? .multiLine).getD f.multiLine
  dotMatchesNewLine := (c.state? .dotMatchesNewLine).getD f.dotMatchesNewLine
  unicode := (c.state? .unicode).getD f.unicode
  crlf := (c.state? .crlf).getD f.crlf

/-- Words are those of Unicode unless that is switched off. -/
def alphabet (f : Flags) : Alphabet := if f.unicode then .unicode else .ascii

/-- The set with everything that differs in case only, among all characters or within ASCII. -/
def closeUnderCase (f : Flags) (s : CharSet) : CharSet :=
  if f.unicode then s.closeUnderCase
  else
    let shift (lo hi image : Nat) : List (Nat × Nat) :=
      (s.intersection ⟨[(lo, hi)]⟩).ranges.map fun r => (r.1 - lo + image, r.2 - lo + image)
    .ofRanges (s.ranges ++ shift 0x41 0x5A 0x61 ++ shift 0x61 0x7A 0x41)

/-- Case is resolved in a set if it does not matter. -/
def resolveCase (f : Flags) (s : CharSet) : CharSet :=
  if f.caseInsensitive then f.closeUnderCase s else s

end Flags

/-- A set of bytes holds ASCII only, so that it cannot match a part of a character. -/
def requireText (f : Flags) (span : Span) (s : CharSet) : Except SyntaxError CharSet :=
  if f.unicode || s.isAscii then .ok s else .error ⟨.invalidUtf8, span, none⟩

/-- A set as it is written: case is resolved first, then the set is negated. -/
def written (f : Flags) (span : Span) (negated : Bool) (s : CharSet) : Except SyntaxError CharSet :=
  let s := f.resolveCase s
  requireText f span (if negated then s.complement else s)

/-- A literal outside of classes. A byte beyond ASCII is no text. -/
def literalChar (f : Flags) (l : Literal) : Except SyntaxError Char :=
  if !f.unicode && l.isByte && 0x7F < l.char.toNat then .error ⟨.invalidUtf8, l.span, none⟩
  else .ok l.char

/-! ### Classes -/

namespace AsciiKind

/-- The ranges of a kind. -/
def ranges : AsciiKind → List (Char × Char)
  | .alnum => [('0', '9'), ('A', 'Z'), ('a', 'z')]
  | .alpha => [('A', 'Z'), ('a', 'z')]
  | .ascii => [('\x00', '\x7f')]
  | .blank => [('\t', '\t'), (' ', ' ')]
  | .cntrl => [('\x00', '\x1f'), ('\x7f', '\x7f')]
  | .digit => [('0', '9')]
  | .graph => [('!', '~')]
  | .lower => [('a', 'z')]
  | .print => [(' ', '~')]
  | .punct => [('!', '/'), (':', '@'), ('[', '\x60'), ('\x7b', '~')]
  | .space =>
    [('\t', '\t'), ('\n', '\n'), ('\x0b', '\x0b'), ('\x0c', '\x0c'), ('\r', '\r'), (' ', ' ')]
  | .upper => [('A', 'Z')]
  | .word => [('0', '9'), ('A', 'Z'), ('_', '_'), ('a', 'z')]
  | .xdigit => [('0', '9'), ('A', 'F'), ('a', 'f')]

/-- The characters of a kind. -/
def chars (k : AsciiKind) : CharSet :=
  .ofRanges (k.ranges.map fun r => (r.1.toNat, r.2.toNat))

end AsciiKind

/-- The characters of a shorthand under some flags. -/
def Shorthand.chars (f : Flags) : Shorthand → CharSet
  | .digit => if f.unicode then Unicode.decimalDigits else AsciiKind.digit.chars
  | .space => if f.unicode then Unicode.whiteSpace else AsciiKind.space.chars
  | .word => if f.unicode then Unicode.wordChars else AsciiKind.word.chars

/-- Shorthands hold both cases of every letter, so case is not resolved in them. -/
def ShorthandClass.chars (f : Flags) (c : ShorthandClass) : Except SyntaxError CharSet :=
  let s := c.kind.chars f
  requireText f c.span (if c.negated then s.complement else s)

/-- The characters of a property. Without Unicode there are no properties. -/
def PropertyClass.chars (f : Flags) (c : PropertyClass) : Except SyntaxError CharSet :=
  if !f.unicode then .error ⟨.unicodeNotAllowed, c.span, none⟩
  else
    let found := match c.query with
      | .named name => Unicode.named name
      | .value property value => Unicode.valued property value
    match found with
    | .ok s => written f c.span c.negated s
    | .error .unknownProperty => .error ⟨.propertyNotFound, c.span, none⟩
    | .error .unknownValue => .error ⟨.propertyValueNotFound, c.span, none⟩

/-- A literal inside a class. Classes of bytes hold no character beyond ASCII. -/
def classChar (f : Flags) (l : Literal) : Except SyntaxError Nat := do
  let c ← literalChar f l
  if !f.unicode && 0x7F < c.toNat then .error ⟨.unicodeNotAllowed, l.span, none⟩
  else .ok c.toNat

namespace SetOperator

/-- The set that an operator makes of two. -/
def apply : SetOperator → CharSet → CharSet → CharSet
  | .intersection => .intersection
  | .difference => .difference
  | .symmetricDifference => .symmetricDifference

end SetOperator

mutual

/-- The characters of a class body. -/
def ClassBody.chars (f : Flags) : ClassBody → Except SyntaxError CharSet
  | .empty _ => .ok .empty
  | .literal l => do
    let c ← classChar f l
    return .singleton c
  | .range _ first last => do
    let lo ← classChar f first
    let hi ← classChar f last
    return ⟨[(lo, hi)]⟩
  | .ascii span kind negated => written f span negated kind.chars
  | .property c => c.chars f
  | .shorthand c => c.chars f
  | .bracketed span negated body => do written f span negated (← ClassBody.chars f body)
  | .union _ items => do return .unions (← ClassBody.charsOfAll f items)
  | .binary _ op left right => do
    let l ← ClassBody.chars f left
    let r ← ClassBody.chars f right
    return op.apply (f.resolveCase l) (f.resolveCase r)

/-- The sets of the items of a class. -/
def ClassBody.charsOfAll (f : Flags) : List ClassBody → Except SyntaxError (List CharSet)
  | [] => .ok []
  | item :: items => do
    let s ← ClassBody.chars f item
    return s :: (← ClassBody.charsOfAll f items)

end

/-! ### Expressions -/

/-- A literal, or the class of its family if case does not matter. -/
def literalCore (f : Flags) (l : Literal) : Except SyntaxError Core := do
  let c ← literalChar f l
  return .chars (f.resolveCase (.singleton c.toNat))

/-- A dot matches a character, line ends excepted unless the flag says otherwise. -/
def dotCore (f : Flags) (span : Span) : Except SyntaxError Core :=
  if !f.unicode then .error ⟨.invalidUtf8, span, none⟩
  else if f.dotMatchesNewLine then .ok (.chars .all)
  else if f.crlf then .ok (.chars (CharSet.ofRanges [(0xA, 0xA), (0xD, 0xD)]).complement)
  else .ok (.chars (CharSet.singleton 0xA).complement)

/-- What an assertion asks for under some flags. -/
def Assertion.look (f : Flags) : Assertion → Look
  | .startLine =>
    if f.multiLine then (if f.crlf then .startLineCrlf else .startLine) else .startText
  | .endLine => if f.multiLine then (if f.crlf then .endLineCrlf else .endLine) else .endText
  | .startText => .startText
  | .endText => .endText
  | .wordBoundary => .wordBoundary f.alphabet
  | .notWordBoundary => .notWordBoundary f.alphabet
  | .wordStart => .wordStart f.alphabet
  | .wordEnd => .wordEnd f.alphabet
  | .wordStartHalf => .wordStartHalf f.alphabet
  | .wordEndHalf => .wordEndHalf f.alphabet

mutual

/-- The core of a tree under flags, and the flags after it. -/
def Ast.coreUnder (f : Flags) : Ast → Except SyntaxError (Core × Flags)
  | .empty _ => .ok (.empty, f)
  | .flags _ change => .ok (.empty, f.apply change)
  | .literal l => do return (← literalCore f l, f)
  | .dot span => do return (← dotCore f span, f)
  | .assertion _ kind => .ok (.look (kind.look f), f)
  | .property c => do return (.chars (← c.chars f), f)
  | .shorthand c => do return (.chars (← c.chars f), f)
  | .bracketed span negated body => do
    return (.chars (← written f span negated (← body.chars f)), f)
  -- Flags that are set inside a repetition hold behind it too.
  | .repetition _ min max body => do
    let (body, f) ← Ast.coreUnder f body
    return (.repeated min max body, f)
  -- Flags that are set inside a group end with it.
  | .group _ .capture body => do
    let (body, _) ← Ast.coreUnder f body
    return (.capture body, f)
  | .group _ (.nonCapturing change) body => do
    let (body, _) ← Ast.coreUnder (f.apply change) body
    return (body, f)
  | .alternation _ branches => do
    let (branches, f) ← Ast.coresUnder f branches
    return (.alternation branches, f)
  | .concat _ parts => do
    let (parts, f) ← Ast.coresUnder f parts
    return (.concat parts, f)

/-- The core expressions of a sequence, each under the flags that those before it have left. -/
def Ast.coresUnder (f : Flags) : List Ast → Except SyntaxError (List Core × Flags)
  | [] => .ok ([], f)
  | ast :: asts => do
    let (core, f) ← Ast.coreUnder f ast
    let (cores, f) ← Ast.coresUnder f asts
    return (core :: cores, f)

end

/-- The core of a whole pattern: Unicode is on and all other flags are off at its start. -/
def Ast.core (ast : Ast) : Except SyntaxError Core := do return (← ast.coreUnder {}).1

end ShapeSchema.Regex
