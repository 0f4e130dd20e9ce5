import ShapeSchema.Regex.Core

/-!
# `ShapeSchema.Regex.Footprint`: how large an automaton a pattern asks for

A pattern is refused if the automaton of its bytes would need more memory than a limit, forward or
backward. The automaton is never built: every state counts 32 bytes, every transition of a state
that reads one of several ranges of bytes 8, every branch of a state that goes several ways 4. A
repetition repeats the states of its body, so the size of a pattern may be exponential in its
length, while counting them is not.

A set of characters is read as sequences of byte ranges in UTF-8. Forward these share their ends as
far as possible, backward their beginnings.
-/

set_option autoImplicit false

namespace ShapeSchema.Regex

/-! ### Sets as sequences of byte ranges -/

/-- A range of bytes. -/
abbrev ByteRange := Nat × Nat

/-- Cuts a range so that no part crosses one of the bounds. -/
def cutAt (bounds : List Nat) (lo hi : Nat) : List (Nat × Nat) :=
  match bounds with
  | [] => [(lo, hi)]
  | b :: bs =>
    if lo ≤ b && b < hi then (lo, b) :: cutAt bs (b + 1) hi else cutAt bs lo hi

/-- Sequences of byte ranges for the code points from `lo` to `hi`, whose UTF-8 forms have a first
byte that adds `mark` and `more` bytes after it. -/
def sequences (mark : Nat) : Nat → Nat → Nat → List (List ByteRange)
  | 0, lo, hi => [[(mark + lo, mark + hi)]]
  | more + 1, lo, hi =>
    let unit := 1 <<< (6 * (more + 1))
    let tails (lo hi : Nat) : List (List ByteRange) := sequences 0x80 more lo hi
    let lead (first last : Nat) (rest : List (List ByteRange)) : List (List ByteRange) :=
      rest.map ((mark + first, mark + last) :: ·)
    let first := lo / unit
    let last := hi / unit
    if first = last then lead first first (tails (lo % unit) (hi % unit))
    else
      let headStart := if lo % unit = 0 then first else first + 1
      let tailStop := if hi % unit = unit - 1 then last + 1 else last
      (if lo % unit = 0 then [] else lead first first (tails (lo % unit) (unit - 1)))
        ++ (if headStart < tailStop then lead headStart (tailStop - 1) (tails 0 (unit - 1)) else [])
        ++ (if hi % unit = unit - 1 then [] else lead last last (tails 0 (hi % unit)))

/-- The sequences of a range of characters: UTF-8 forms of one length at a time, without
surrogates. -/
def rangeSequences (range : Nat × Nat) : List (List ByteRange) :=
  (cutAt [0x7F, 0x7FF, 0xD7FF, 0xDFFF, 0xFFFF] range.1 range.2).flatMap fun (lo, hi) =>
    if hi ≤ 0x7F then sequences 0 0 lo hi
    else if hi ≤ 0x7FF then sequences 0xC0 1 lo hi
    else if 0xD800 ≤ lo && hi ≤ 0xDFFF then []
    else if hi ≤ 0xFFFF then sequences 0xE0 2 lo hi
    else sequences 0xF0 3 lo hi

/-- A state that reads one of several byte ranges. Each leads to a state of a table, by its number,
or to the end. -/
abbrev ByteState := List (ByteRange × Option Nat)

/-- The number of a state in a table, which is given one if it is new. -/
def number (state : ByteState) (table : List ByteState) : Nat × List ByteState :=
  match table.idxOf? state with
  | some i => (i, table)
  | none => (table.length, table ++ [state])

/-- Groups sequences by their first range. Equal first ranges stand next to each other. -/
def groupByHead : List (List ByteRange) → List (ByteRange × List (List ByteRange))
  | [] => []
  | [] :: rest => groupByHead rest
  | (head :: tail) :: rest =>
    match groupByHead rest with
    | (h, tails) :: groups =>
      if h = head then (h, tail :: tails) :: groups else (head, [tail]) :: (h, tails) :: groups
    | [] => [(head, [tail])]

/-- The states that read sequences of up to `depth` ranges, with the number of the first of them, or
none if nothing is left to read. States with the same continuation are one. -/
def shareEnds : Nat → List (List ByteRange) → List ByteState → Option Nat × List ByteState
  | 0, _, table => (none, table)
  | depth + 1, seqs, table =>
    match groupByHead seqs with
    | [] => (none, table)
    | groups =>
      let (state, table) := groups.foldl
        (fun (state, table) (head, tails) =>
          let (next, table) := shareEnds depth tails table
          (state ++ [(head, next)], table))
        (([] : ByteState), table)
      let (i, table) := number state table
      (some i, table)

/-- The distinct beginnings of sequences, each as long as at least one range. -/
def countBeginnings : Nat → List (List ByteRange) → Nat
  | 0, _ => 0
  | depth + 1, seqs =>
    (groupByHead seqs).foldl (fun count g => count + 1 + countBeginnings depth g.2) 0

/-! ### Costs -/

/-- The direction in which a text is read. -/
inductive Direction where
  | forward
  | backward
  deriving DecidableEq, Repr

/-- How many bytes the encoding of a code point has. -/
def utf8Length (c : Nat) : Nat :=
  if c ≤ 0x7F then 1 else if c ≤ 0x7FF then 2 else if c ≤ 0xFFFF then 3 else 4

/-- The bytes that a set of characters needs. A single character is a sequence of bytes. -/
def charsCost (d : Direction) (set : CharSet) : Nat :=
  match set.ranges with
  | [] => 32
  | [(lo, hi)] =>
    if lo = hi then 32 * utf8Length lo else if hi ≤ 0x7F then 64 else severalCost d [(lo, hi)]
  | ranges => if set.isAscii then 64 + 8 * ranges.length else severalCost d ranges
where
  severalCost (d : Direction) (ranges : List (Nat × Nat)) : Nat :=
    let seqs := ranges.flatMap rangeSequences
    match d with
    | .forward =>
      (shareEnds 4 seqs []).2.foldl (fun bytes state => bytes + 32 + 8 * state.length) 32
    | .backward => 64 + 32 * countBeginnings 4 seqs + 4 * seqs.length

/-- The bytes that a repetition needs. -/
def repetitionCost (min : Nat) (max : Option Nat) (mayBeEmpty : Bool) (body : Nat) : Nat :=
  match min, max with
  | 0, some 1 => 72 + body
  | 0, none => if mayBeEmpty then body + 112 else 40 + body
  | n, none => n * body + 40
  | m, some n =>
    if m = n then m * body else (if m = 0 then 32 else m * body) + 32 + (n - m) * (40 + body)

mutual

/-- The bytes that an expression needs in a direction. Captures are kept only forward. -/
def Core.cost (d : Direction) : Core → Nat
  | .empty | .look _ => 32
  | .chars set => charsCost d set
  | .concat parts => Core.totalCost d parts
  | .alternation branches => 64 + 4 * branches.length + Core.totalCost d branches
  | .repetition min max body => repetitionCost min max body.admitsEmpty (Core.cost d body)
  | .capture body => (if d = .forward then 64 else 0) + Core.cost d body

/-- The cost of expressions one after the other. -/
def Core.totalCost (d : Direction) : List Core → Nat
  | [] => 0
  | r :: rs => Core.cost d r + Core.totalCost d rs

end

/-- The limit on the size of a pattern, in bytes. -/
def sizeLimit : Nat := 10 * 1024 * 1024

/-- A pattern fits. The search for a start, the outermost capture and the end of the match take 200
bytes forward; the end alone takes 32 backward. -/
def Core.fits (r : Core) : Bool :=
  r.cost .forward + 200 ≤ sizeLimit && r.cost .backward + 32 ≤ sizeLimit

end ShapeSchema.Regex
