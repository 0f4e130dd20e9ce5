/-!
# `ShapeSchema.Double.Basic`: finite binary64 numbers

A bound in a document is a binary64 number, and a document cannot write an infinity, so `Double`
holds the finite ones. Each has one representation: a sign, a significand and a scale, standing for
`± significand * 2 ^ scale` units, where one unit is the smallest positive number `2 ^ -1074`.

Counting in units makes every comparison, integrality test and conversion exact arithmetic on `Nat`
and `Int`. Rounding happens in one place, `Double.nearest?`, which takes an exact ratio to the
nearest representable number and a tie to the even significand.
-/

set_option autoImplicit false

namespace ShapeSchema

/-- A finite binary64 number, `± significand * 2 ^ scale * 2 ^ -1074`, with a significand below
`2 ^ 53`. A significand below `2 ^ 52` occurs at scale 0 only, so the representation is unique. -/
structure Double where
  negative : Bool
  significand : Nat
  scale : Nat
  normal : significand < 0x20000000000000 ∧ scale ≤ 2045 ∧
    (0x10000000000000 ≤ significand ∨ scale = 0)
  deriving DecidableEq, Repr

namespace Double

/-- How many units make one: the smallest positive number is `2 ^ -1074`. -/
def one : Nat := 1 <<< 1074

/-- The magnitude, counted in units. -/
def magnitude (x : Double) : Nat := x.significand <<< x.scale

/-- The value, counted in units. Both zeros count 0. -/
def units (x : Double) : Int := if x.negative then -(x.magnitude : Int) else x.magnitude

/-- The zero without a sign. -/
def zero : Double := ⟨false, 0, 0, by decide⟩

instance : Inhabited Double := ⟨zero⟩

/-- The largest finite number. -/
def largest : Double := ⟨false, 0x1FFFFFFFFFFFFF, 2045, by decide⟩

/-- The number with the other sign. Zero has one too. -/
def neg (x : Double) : Double := { x with negative := !x.negative }

/-- The order of the values; the two zeros are equal in it. -/
def lt (x y : Double) : Bool := decide (x.units < y.units)

/-- No fractional part. -/
def isIntegral (x : Double) : Bool := x.magnitude % one == 0

/-- The integer part, rounded towards zero. -/
def toInt (x : Double) : Int := x.units.tdiv one

/-- The quotient rounded to the nearest integer, a half going to the even neighbour. -/
def divideToEven (num den : Nat) : Nat :=
  let q := num / den
  let twice := 2 * (num % den)
  if twice < den then q
  else if den < twice then q + 1
  else if q % 2 = 0 then q else q + 1

/-- The double with this significand and scale, where a significand of `2 ^ 53`, which rounding up
can reach, moves to the next scale. None beyond the largest finite number. -/
def ofParts? (negative : Bool) (significand scale : Nat) : Option Double :=
  let parts :=
    if significand = 0x20000000000000 then (0x10000000000000, scale + 1) else (significand, scale)
  if h : parts.1 < 0x20000000000000 ∧ parts.2 ≤ 2045 ∧
      (0x10000000000000 ≤ parts.1 ∨ parts.2 = 0) then
    some ⟨negative, parts.1, parts.2, h⟩
  else none

/-- The double nearest to `num / den` units. -/
def nearestUnits? (negative : Bool) (num den : Nat) : Option Double :=
  let whole := num / den
  let scale := if whole < 0x20000000000000 then 0 else whole.log2 - 52
  ofParts? negative (divideToEven num (den <<< scale)) scale

/-- The double nearest to `± num / den`; none if that is beyond the largest finite number. -/
def nearest? (negative : Bool) (num den : Nat) : Option Double :=
  nearestUnits? negative (num * one) den

/-- The double nearest to an integer, the largest one for an integer beyond the range. -/
def ofInt (n : Int) : Double :=
  (nearest? (decide (n < 0)) n.natAbs 1).getD
    (if n < 0 then largest.neg else largest)

/-- The product, rounded once. -/
def mul? (x y : Double) : Option Double :=
  nearestUnits? (x.negative != y.negative) (x.magnitude * y.magnitude) one

/-- The quotient by a nonzero number, rounded once. -/
def div? (x y : Double) : Option Double :=
  nearest? (x.negative != y.negative) x.magnitude y.magnitude

/-- The bits of the interchange format: sign, eleven bits of exponent, fifty-two of fraction. -/
def toBits (x : Double) : UInt64 :=
  let sign := if x.negative then 0x8000000000000000 else 0
  let body :=
    if x.significand < 0x10000000000000 then x.significand
    else ((x.scale + 1) <<< 52) + (x.significand - 0x10000000000000)
  UInt64.ofNat (sign + body)

/-- The finite number with these bits, none for an infinity or a NaN. -/
def ofBits? (bits : UInt64) : Option Double :=
  let n := bits.toNat
  let fraction := n % 0x10000000000000
  let exponent := (n >>> 52) % 0x800
  let negative := decide (0x8000000000000000 ≤ n)
  if exponent = 0 then ofParts? negative fraction 0
  else ofParts? negative (0x10000000000000 + fraction) (exponent - 1)

/-! ### Word conversions -/

/-- The nearest integer of the interval, for a number taken towards zero: a conversion to a machine
word that saturates. -/
def clampTo (lo hi : Int) (x : Double) : Int :=
  if x.toInt < lo then lo else if hi < x.toInt then hi else x.toInt

/-- What is clamped is within the bounds. -/
theorem clampTo_mem (lo hi : Int) (x : Double) (h : lo ≤ hi) :
    lo ≤ clampTo lo hi x ∧ clampTo lo hi x ≤ hi := by
  unfold clampTo; grind

end Double

end ShapeSchema
