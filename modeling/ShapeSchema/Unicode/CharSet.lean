/-!
# `ShapeSchema.Unicode.CharSet`: sets of characters

A set is the list of its maximal ranges of code points, in ascending order. Surrogate code points
are not characters: no operation needs them, and a complement leaves them out.

`CharSet.ofTable` reads the notation in which the property tables of this folder are written:
hexadecimal code points and ranges, separated by blanks, in rows.
-/

set_option autoImplicit false

namespace ShapeSchema

/-- Ranges of code points, ascending and apart. -/
structure CharSet where
  ranges : List (Nat × Nat) := []
  deriving DecidableEq, Repr

namespace CharSet

/-- The set without code points. -/
def empty : CharSet := {}

instance : Inhabited CharSet := ⟨empty⟩

/-- The set has no code points. -/
def isEmpty (s : CharSet) : Bool := s.ranges.isEmpty

/-- The code point lies in one of the ranges. -/
def contains (s : CharSet) (c : Nat) : Bool := s.ranges.any fun r => decide (r.1 ≤ c ∧ c ≤ r.2)

/-- Joins ranges that overlap or touch, in a list that ascends by start. -/
def join : List (Nat × Nat) → List (Nat × Nat)
  | [] => []
  | [r] => [r]
  | r :: s :: rest =>
    if s.1 ≤ r.2 + 1 then join ((r.1, max r.2 s.2) :: rest) else r :: join (s :: rest)
termination_by ranges => ranges.length

/-- The set of the code points in any of the ranges. -/
def ofRanges (ranges : List (Nat × Nat)) : CharSet :=
  ⟨join (ranges.mergeSort fun a b => a.1 < b.1 || (a.1 == b.1 && a.2 ≤ b.2))⟩

/-- The set of one code point. -/
def singleton (c : Nat) : CharSet := ⟨[(c, c)]⟩

/-- The set of all code points. -/
def all : CharSet := ⟨[(0, 0x10FFFF)]⟩

/-- What is in either set. -/
def union (s t : CharSet) : CharSet := ofRanges (s.ranges ++ t.ranges)

/-- The character before a code point. -/
def before (c : Nat) : Nat := if c = 0xE000 then 0xD7FF else c - 1

/-- The character after a code point. -/
def after (c : Nat) : Nat := if c = 0xD7FF then 0xE000 else c + 1

/-- The gaps between ranges, from the character `start` on. -/
def gaps (start : Nat) : List (Nat × Nat) → List (Nat × Nat)
  | [] => if start ≤ 0x10FFFF then [(start, 0x10FFFF)] else []
  | (lo, hi) :: rest =>
    if start < lo then (start, before lo) :: gaps (after hi) rest else gaps (after hi) rest

/-- The characters outside the set. -/
def complement (s : CharSet) : CharSet := ⟨gaps 0 s.ranges⟩

/-- The common parts of two ascending lists of ranges. -/
def meet : List (Nat × Nat) → List (Nat × Nat) → List (Nat × Nat)
  | [], _ => []
  | _ :: _, [] => []
  | a :: as, b :: bs =>
    let lo := max a.1 b.1
    let hi := min a.2 b.2
    let rest := if a.2 < b.2 then meet as (b :: bs) else meet (a :: as) bs
    if lo ≤ hi then (lo, hi) :: rest else rest
termination_by as bs => as.length + bs.length

/-- What is in both sets. -/
def intersection (s t : CharSet) : CharSet := ⟨meet s.ranges t.ranges⟩

/-- What is in the first set and not in the second. -/
def difference (s t : CharSet) : CharSet := s.intersection t.complement

/-- What is in one of the sets and not in the other. -/
def symmetricDifference (s t : CharSet) : CharSet :=
  (s.union t).difference (s.intersection t)

/-- What is in any of the sets. -/
def unions (sets : List CharSet) : CharSet := ofRanges (sets.flatMap ranges)

/-- Nothing beyond ASCII. -/
def isAscii (s : CharSet) : Bool := s.ranges.all fun r => r.2 ≤ 0x7F

/-! ### Tables -/

/-- The value of a hexadecimal numeral. -/
def ofHex (digits : List Char) : Nat :=
  digits.foldl (fun n d =>
    n * 16 + (if d.isDigit then d.toNat - '0'.toNat else d.toNat - 'a'.toNat + 10)) 0

/-- A code point, or a range of two with a hyphen between them. -/
def ofEntry (entry : List Char) : Nat × Nat :=
  match entry.dropWhile (· != '-') with
  | [] => (ofHex entry, ofHex entry)
  | _ :: last => (ofHex (entry.takeWhile (· != '-')), ofHex last)

/-- The blank-separated words of a text. `word` is the one being read, last letter first. -/
def words (word : List Char) : List Char → List (List Char)
  | [] => if word.isEmpty then [] else [word.reverse]
  | ' ' :: rest => if word.isEmpty then words [] rest else word.reverse :: words [] rest
  | c :: rest => words (c :: word) rest

/-- The entries of a table, row after row. -/
def entries (table : List String) : List (Nat × Nat) :=
  table.flatMap fun row => (words [] row.toList).map ofEntry

/-- The ranges that a table lists. -/
def ofTable (table : List String) : CharSet := ofRanges (entries table)

end CharSet

end ShapeSchema
