import ShapeSchema.Unicode.CharSet

/-!
# `ShapeSchema.Regex.Core`: regular expressions after their flags are resolved

A core expression has no flags, no escapes and no spans left: sets of characters, assertions about a
place of the text, and the ways to put them together. Captures stay because they count toward the
size of a pattern; which of two matches is preferred does not, so nothing says whether a repetition
is greedy.
-/

set_option autoImplicit false

namespace ShapeSchema.Regex

/-- Which characters make a word. -/
inductive Alphabet where
  | ascii
  | unicode
  deriving DecidableEq, Repr

/-- What can be asked of a place in the text. -/
inductive Look where
  | startText
  | endText
  | startLine
  | endLine
  /-- The start of a line, where a carriage return ends one too. -/
  | startLineCrlf
  | endLineCrlf
  | wordBoundary (alphabet : Alphabet)
  | notWordBoundary (alphabet : Alphabet)
  | wordStart (alphabet : Alphabet)
  | wordEnd (alphabet : Alphabet)
  /-- No word character stands before. -/
  | wordStartHalf (alphabet : Alphabet)
  /-- No word character stands after. -/
  | wordEndHalf (alphabet : Alphabet)
  deriving DecidableEq, Repr

/-- A core expression. -/
inductive Core where
  | empty
  | look (l : Look)
  | chars (set : CharSet)
  | concat (parts : List Core)
  | alternation (branches : List Core)
  | repetition (min : Nat) (max : Option Nat) (body : Core)
  | capture (body : Core)
  deriving Repr

namespace Core

mutual

/-- The expression matches nothing but the empty text. -/
def isEmptyOnly : Core → Bool
  | .empty | .look _ => true
  | .chars _ => false
  | .concat parts => areEmptyOnly parts
  | .alternation branches => areEmptyOnly branches
  | .repetition _ _ body => isEmptyOnly body
  | .capture body => isEmptyOnly body

/-- Each of the expressions matches the empty text only. -/
def areEmptyOnly : List Core → Bool
  | [] => true
  | r :: rs => isEmptyOnly r && areEmptyOnly rs

end

mutual

/-- The expression matches the empty text, if its assertions hold. -/
def admitsEmpty : Core → Bool
  | .empty | .look _ => true
  | .chars _ => false
  | .concat parts => allAdmitEmpty parts
  | .alternation branches => someAdmitsEmpty branches
  | .repetition min _ body => min == 0 || admitsEmpty body
  | .capture body => admitsEmpty body

/-- Each of the expressions matches the empty text. -/
def allAdmitEmpty : List Core → Bool
  | [] => true
  | r :: rs => admitsEmpty r && allAdmitEmpty rs

/-- One of the expressions matches the empty text. -/
def someAdmitsEmpty : List Core → Bool
  | [] => false
  | r :: rs => admitsEmpty r || someAdmitsEmpty rs

end

/-- A repetition in least form: one round is as good as many if rounds are empty, no round at all is
empty, and a single round is the body. -/
def repeated (min : Nat) (max : Option Nat) (body : Core) : Core :=
  let cap (n : Nat) : Nat := if body.isEmptyOnly then n.min 1 else n
  match cap min, max.map cap with
  | 0, some 0 => .empty
  | 1, some 1 => body
  | min, max => .repetition min max body

end Core

end ShapeSchema.Regex
