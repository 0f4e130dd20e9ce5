import ShapeSchema.Regex.Core
import ShapeSchema.Unicode.Property

/-!
# `ShapeSchema.Regex.Match`: which texts a core expression matches

A text of `n` characters has `n + 1` places, and a set of places is a number whose bits are the
places in it. An expression is read as a map on sets of places: `Core.ends` takes the places where a
match may start to those where it may end. A set of characters is then a mask and a shift, a
sequence is composition, and a repetition iterates. Every map moves places forward or leaves them,
so iteration settles after as many rounds as there are places.

A pattern is searched for: the match may start anywhere.
-/

set_option autoImplicit false

namespace ShapeSchema.Regex

/-- Places of a text, as the bits of a number. -/
abbrev Places := Nat

/-- The places up to `last` that satisfy a condition. -/
def placesWhere (last : Nat) (p : Nat → Bool) : Places :=
  (List.range (last + 1)).foldl (fun s i => if p i then s ||| 1 <<< i else s) 0

/-- The character is part of a word. -/
def isWord (alphabet : Alphabet) (c : Char) : Bool :=
  match alphabet with
  | .ascii => c.isAlphanum || c = '_'
  | .unicode =>
    if c.toNat < 0x80 then c.isAlphanum || c = '_' else Unicode.wordChars.contains c.toNat

/-- An assertion holds between the character before a place and the one after it. -/
def Look.holds (before after : Option Char) : Look → Bool
  | .startText => before.isNone
  | .endText => after.isNone
  | .startLine => before.all (· == '\n')
  | .endLine => after.all (· == '\n')
  | .startLineCrlf => before.all fun c => c == '\n' || (c == '\r' && after != some '\n')
  | .endLineCrlf => after.all fun c => c == '\r' || (c == '\n' && before != some '\r')
  | .wordBoundary a => before.any (isWord a) != after.any (isWord a)
  | .notWordBoundary a => before.any (isWord a) == after.any (isWord a)
  | .wordStart a => !before.any (isWord a) && after.any (isWord a)
  | .wordEnd a => before.any (isWord a) && !after.any (isWord a)
  | .wordStartHalf a => !before.any (isWord a)
  | .wordEndHalf a => !after.any (isWord a)

/-- The places of a text at which an assertion holds. -/
def Look.places (text : Array Char) (l : Look) : Places :=
  placesWhere text.size fun i => l.holds (if i = 0 then none else text[i - 1]?) text[i]?

/-- The places of a text that have a character of a set after them. -/
def charPlaces (text : Array Char) (set : CharSet) : Places :=
  placesWhere text.size fun i => text[i]?.any fun c => set.contains c.toNat

/-- Applies a map `n` times, or until it changes nothing. -/
def iterate (f : Places → Places) : Nat → Places → Places
  | 0, s => s
  | n + 1, s =>
    let next := f s
    if next = s then s else iterate f n next

/-- The places within a number of rounds of a map, none and more. -/
def within (f : Places → Places) : Nat → Places → Places
  | 0, s => s
  | n + 1, s =>
    let next := s ||| f s
    if next = s then s else within f n next

mutual

/-- The places where a match may end, if it starts at one of the given places. -/
def Core.ends (text : Array Char) : Core → Places → Places
  | .empty, s => s
  | .look l, s => s &&& l.places text
  | .chars set, s => (s &&& charPlaces text set) <<< 1
  | .concat parts, s => Core.endsOfSequence text parts s
  | .alternation branches, s => Core.endsOfAny text branches s
  | .repetition min max body, s =>
    let start := iterate (fun s => Core.ends text body s) min s
    let rounds := match max with
      | some max => max - min
      | none => text.size + 1
    within (fun s => Core.ends text body s) rounds start
  | .capture body, s => Core.ends text body s

/-- Where matches of a sequence can end. -/
def Core.endsOfSequence (text : Array Char) : List Core → Places → Places
  | [], s => s
  | r :: rs, s => Core.endsOfSequence text rs (Core.ends text r s)

/-- Where matches of any of the expressions can end. -/
def Core.endsOfAny (text : Array Char) : List Core → Places → Places
  | [], _ => 0
  | r :: rs, s => Core.ends text r s ||| Core.endsOfAny text rs s

end

/-- Some part of the text matches. -/
def Core.isFoundIn (r : Core) (text : String) : Bool :=
  let chars := text.toList.toArray
  r.ends chars ((1 <<< (chars.size + 1)) - 1) != 0

end ShapeSchema.Regex
