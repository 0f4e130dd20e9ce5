import ShapeSchema.Unicode.CharSet

/-!
# `ShapeSchema.Regex.Syntax`: the syntax tree of a regular expression

Every node keeps the span of characters it was written with, because the checks that follow parsing
report their errors there.
-/

set_option autoImplicit false

namespace ShapeSchema.Regex

/-- From a character of the pattern to the one after the last, counted in characters. -/
structure Span where
  start : Nat
  stop : Nat
  deriving DecidableEq, Repr

/-- A character that stands for itself, or for the byte of an `\xNN` escape where Unicode is off. -/
structure Literal where
  span : Span
  char : Char
  isByte : Bool
  deriving DecidableEq, Repr

/-- The flags that a pattern can set. -/
inductive Flag where
  | caseInsensitive
  | multiLine
  | dotMatchesNewLine
  | swapGreed
  | unicode
  | crlf
  | ignoreWhitespace
  deriving DecidableEq, Repr

/-- Flags that are switched on and flags that are switched off. -/
structure FlagChange where
  on : List Flag := []
  off : List Flag := []
  deriving DecidableEq, Repr

/-- The new state of a flag, if it changes. -/
def FlagChange.state? (c : FlagChange) (f : Flag) : Option Bool :=
  if c.on.contains f then some true else if c.off.contains f then some false else none

/-- The assertions that a pattern can make, before flags say what they ask for. -/
inductive Assertion where
  | startLine
  | endLine
  | startText
  | endText
  | wordBoundary
  | notWordBoundary
  | wordStart
  | wordEnd
  | wordStartHalf
  | wordEndHalf
  deriving DecidableEq, Repr

/-- The classes `\d`, `\s` and `\w`. -/
inductive Shorthand where
  | digit
  | space
  | word
  deriving DecidableEq, Repr

/-- A class written `\d`, or `\D` if negated. -/
structure ShorthandClass where
  span : Span
  kind : Shorthand
  negated : Bool
  deriving DecidableEq, Repr

/-- What a Unicode class asks for: a name, or a value of a property. -/
inductive PropertyQuery where
  | named (name : String)
  | value (property value : String)
  deriving DecidableEq, Repr

/-- A class written `\p…`, negated by `\P`, by `!=` between property and value, or by neither or
both. -/
structure PropertyClass where
  span : Span
  query : PropertyQuery
  negated : Bool
  deriving DecidableEq, Repr

/-- The classes `[:alpha:]` and so on. -/
inductive AsciiKind where
  | alnum
  | alpha
  | ascii
  | blank
  | cntrl
  | digit
  | graph
  | lower
  | print
  | punct
  | space
  | upper
  | word
  | xdigit
  deriving DecidableEq, Repr

/-- The operators between classes. -/
inductive SetOperator where
  | intersection
  | difference
  | symmetricDifference
  deriving DecidableEq, Repr

/-- What stands between the brackets of a class. -/
inductive ClassBody where
  | empty (span : Span)
  | literal (l : Literal)
  | range (span : Span) (first last : Literal)
  | ascii (span : Span) (kind : AsciiKind) (negated : Bool)
  | property (c : PropertyClass)
  | shorthand (c : ShorthandClass)
  | bracketed (span : Span) (negated : Bool) (body : ClassBody)
  | union (span : Span) (items : List ClassBody)
  | binary (span : Span) (op : SetOperator) (left right : ClassBody)
  deriving Repr

namespace ClassBody

/-- Where a class or an item of one stands. -/
def span : ClassBody → Span
  | .empty s | .range s _ _ | .ascii s _ _ | .bracketed s _ _ | .union s _ | .binary s _ _ _ => s
  | .literal l => l.span
  | .property c => c.span
  | .shorthand c => c.span

end ClassBody

/-- What a group is for. -/
inductive GroupKind where
  | capture
  | nonCapturing (flags : FlagChange)
  deriving DecidableEq, Repr

/-- The syntax tree of a pattern. -/
inductive Ast where
  | empty (span : Span)
  | flags (span : Span) (change : FlagChange)
  | literal (l : Literal)
  | dot (span : Span)
  | assertion (span : Span) (kind : Assertion)
  | property (c : PropertyClass)
  | shorthand (c : ShorthandClass)
  | bracketed (span : Span) (negated : Bool) (body : ClassBody)
  | repetition (span : Span) (min : Nat) (max : Option Nat) (body : Ast)
  | group (span : Span) (kind : GroupKind) (body : Ast)
  | alternation (span : Span) (branches : List Ast)
  | concat (span : Span) (parts : List Ast)
  deriving Repr

namespace Ast

/-- Where an expression stands. -/
def span : Ast → Span
  | .empty s | .flags s _ | .dot s | .assertion s _ | .bracketed s _ _ | .repetition s _ _ _
  | .group s _ _ | .alternation s _ | .concat s _ => s
  | .literal l => l.span
  | .property c => c.span
  | .shorthand c => c.span

end Ast

end ShapeSchema.Regex
