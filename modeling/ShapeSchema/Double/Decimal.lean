import ShapeSchema.Double.Basic

/-!
# `ShapeSchema.Double.Decimal`: shortest decimals and their two layouts

`Double.shortest` finds the decimal with the fewest digits that still rounds to the given number,
and among those the nearest one. It tries grids of 1, 2, … 17 digits and tests the two neighbours of
the number on each grid in exact arithmetic.

`Layout` fixes what is left open: where positional notation ends, whether a whole number shows a
point, and which way an exact tie goes. The library writes two layouts, `Layout.plain` in messages
and `Layout.json` in JSON text.
-/

set_option autoImplicit false

namespace ShapeSchema

/-- The number `digits * 10 ^ exponent`. -/
structure Decimal where
  digits : Nat
  exponent : Int
  deriving DecidableEq, Repr

namespace Double

/-- Four times the least real that rounds to `x`. The gap below a power of two is half the gap
above it. -/
def lowerBound (x : Double) : Nat :=
  let half := if x.significand = 0x10000000000000 ∧ 0 < x.scale then 1 else 2
  4 * x.magnitude - (half <<< x.scale)

/-- Four times the largest real that rounds to `x`. -/
def upperBound (x : Double) : Nat := 4 * x.magnitude + (2 <<< x.scale)

/-- The exponent `e` with `10 ^ e ≤ x < 10 ^ (e + 1)`, for positive magnitudes. -/
def decimalExponent (x : Double) : Int :=
  let whole := x.magnitude / one
  if whole ≠ 0 then ((Nat.toDigits 10 whole).length : Int) - 1
  else Int.negOfNat (((List.range 325).find? fun j => one ≤ x.magnitude * Nat.pow 10 j).getD 324)

/-- The nearest candidate on the grid `10 ^ exponent` that rounds to `x`, if one of the two
neighbours of `x` does. -/
def onGrid? (x : Double) (tieUp : Bool) (exponent : Int) : Option Decimal :=
  let down := Nat.pow 10 (-exponent).toNat
  let step := one * Nat.pow 10 exponent.toNat
  let lower := x.magnitude * down / step
  let inside (c : Nat) : Bool :=
    if x.significand % 2 = 0 then
      decide (x.lowerBound * down ≤ 4 * c * step) && decide (4 * c * step ≤ x.upperBound * down)
    else
      decide (x.lowerBound * down < 4 * c * step) && decide (4 * c * step < x.upperBound * down)
  let rest := 2 * (x.magnitude * down % step)
  let upFirst := step < rest || (step == rest && (tieUp || lower % 2 == 1))
  let near := if upFirst then [lower + 1, lower] else [lower, lower + 1]
  (near.find? inside).map fun c => ⟨c, exponent⟩

/-- Takes trailing zeros off the digits; `fuel` bounds how many. -/
def stripZeros : Nat → Decimal → Decimal
  | 0, d => d
  | fuel + 1, d =>
    if d.digits % 10 = 0 ∧ d.digits ≠ 0 then stripZeros fuel ⟨d.digits / 10, d.exponent + 1⟩ else d

/-- The shortest decimal that rounds to `|x|`. Seventeen digits always suffice. -/
def shortest (x : Double) (tieUp : Bool) : Decimal :=
  if x.significand = 0 then ⟨0, 0⟩
  else
    let top := x.decimalExponent
    let found := (List.range 17).findSome? fun (n : Nat) => x.onGrid? tieUp (top - n)
    stripZeros 18 (found.getD ⟨0, 0⟩)

end Double

/-- How the digits of a decimal are laid out. -/
structure Layout where
  /-- An exact tie between two shortest decimals goes away from zero, rather than to even. -/
  tieUp : Bool
  /-- A whole number in positional notation ends in `.0`. -/
  showsPoint : Bool
  /-- An exponent that is not negative has a sign. -/
  signsExponent : Bool
  /-- The exponents of the leading digit for which positional notation is used. -/
  positional : Int → Bool

namespace Layout

/-- Positional notation always, and no point in a whole number: the layout of messages. -/
def plain : Layout := ⟨true, false, true, fun _ => true⟩

/-- Positional notation for leading digits from `10 ^ -5` to `10 ^ 15`: the layout of JSON text. -/
def json : Layout := ⟨false, true, true, fun e => decide (-5 ≤ e ∧ e ≤ 15)⟩

/-- As in JSON text, but without a plus before an exponent: the layout of filter values. -/
def filter : Layout := ⟨true, true, false, fun e => decide (-5 ≤ e ∧ e ≤ 15)⟩

/-- Digits with a point: zeros fill the gap on either side of it. -/
def positionalText (layout : Layout) (digits : List Char) (exponent : Int) : List Char :=
  if 0 ≤ exponent then
    digits ++ List.replicate exponent.toNat '0' ++ (if layout.showsPoint then ['.', '0'] else [])
  else
    let places := (-exponent).toNat
    let padded := List.replicate (places + 1 - digits.length) '0' ++ digits
    padded.take (padded.length - places) ++ '.' :: padded.drop (padded.length - places)

/-- One digit, the point if more follow, and the exponent. -/
def scientificText (layout : Layout) (digits : List Char) (leading : Int) : List Char :=
  let mantissa := match digits with
    | [] => []
    | [d] => [d]
    | d :: rest => d :: '.' :: rest
  let sign := if leading < 0 then ['-'] else if layout.signsExponent then ['+'] else []
  mantissa ++ 'e' :: sign ++ Nat.toDigits 10 leading.natAbs

/-- The number in a layout: the fewest digits that are read back as the number. -/
def render (layout : Layout) (x : Double) : String :=
  let decimal := x.shortest layout.tieUp
  let digits := Nat.toDigits 10 decimal.digits
  let leading := decimal.exponent + digits.length - 1
  let body :=
    if layout.positional leading then layout.positionalText digits decimal.exponent
    else layout.scientificText digits leading
  String.ofList (if x.negative then '-' :: body else body)

end Layout

namespace Double

/-- The text of a number in messages: `1`, `0.5`, `-0`. -/
def plain (x : Double) : String := Layout.plain.render x

/-- The text of a number in JSON: `1.0`, `0.5`, `1e+16`. -/
def json (x : Double) : String := Layout.json.render x

end Double

end ShapeSchema
