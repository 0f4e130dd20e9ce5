import Mathlib.Tactic.Ring
import ShapeSchema.Double.Basic

/-!
# `ShapeSchema.Proofs.Double`: integers that need no rounding

Rounding takes the magnitude of a binary64 number to that number (`nearestUnits?_magnitude`), so an
integer that binary64 can represent is converted exactly (`units_ofInt`). For the same reason no two
numbers have one value, but for the two zeros, which `foldZero` takes together (`foldZero_eq_iff`).

`units_lt_of_lt_succ` is about large integers, such as those where words end: an odd one is no
binary64 number.
-/

set_option autoImplicit false

namespace ShapeSchema

namespace Double

/-- One is a power of two units. Which one does not matter to the proofs. -/
theorem exists_one_eq : ∃ k, one = 2 ^ k := by
  have power (n : Nat) : ∃ k, 1 <<< n = 2 ^ k := ⟨n, Nat.one_shiftLeft n⟩
  exact power 1074

/-- The number `1.0` is at least one unit. -/
theorem one_pos : 0 < one := by
  obtain ⟨k, hk⟩ := exists_one_eq
  rw [hk]
  exact Nat.two_pow_pos k

/-- Counts compare as what they count. -/
theorem mul_one_le_mul_one {a b : Nat} : (a : Int) * one ≤ b * one ↔ a ≤ b := by
  rw [← Int.natCast_mul, ← Int.natCast_mul, Int.ofNat_le]
  exact Nat.mul_le_mul_right_iff one_pos

/-- The magnitude is the significand, moved by the scale. -/
theorem magnitude_eq (x : Double) : x.magnitude = x.significand * 2 ^ x.scale := by
  rw [magnitude, Nat.shiftLeft_eq]

/-- The magnitude is what is left of the units without their sign. -/
theorem natAbs_units (x : Double) : x.units.natAbs = x.magnitude := by
  rw [units]
  split <;> omega

/-! ### Rounding a number that needs none -/

/-- An exact quotient is not rounded. -/
theorem divideToEven_mul (a : Nat) {den : Nat} (positive : 0 < den) :
    divideToEven (a * den) den = a := by
  have rest : a * den % den = 0 := Nat.mul_mod_left a den
  have quotient : a * den / den = a := Nat.mul_div_cancel a positive
  unfold divideToEven
  rw [rest, quotient]
  simp [positive]

/-- Rounding the magnitude of a number gives the number back, under the sign that is asked for. -/
theorem nearestUnits?_magnitude (x : Double) (negative : Bool) :
    nearestUnits? negative x.magnitude 1 = some ⟨negative, x.significand, x.scale, x.normal⟩ := by
  obtain ⟨below, bounded, full⟩ := x.normal
  -- The scale that rounding picks is the scale of the number.
  have scale : (if x.magnitude < 0x20000000000000 then 0 else x.magnitude.log2 - 52) = x.scale := by
    rcases full with full | flat
    · have lower : 2 ^ (52 + x.scale) ≤ x.magnitude := by
        rw [magnitude_eq, Nat.pow_add]
        exact Nat.mul_le_mul_right _ full
      have upper : x.magnitude < 2 ^ (52 + x.scale + 1) := by
        rw [magnitude_eq, show 52 + x.scale + 1 = 53 + x.scale from by omega, Nat.pow_add]
        exact Nat.mul_lt_mul_of_pos_right below (Nat.two_pow_pos _)
      have log : x.magnitude.log2 = 52 + x.scale :=
        (Nat.log2_eq_iff (Nat.ne_of_gt (Nat.lt_of_lt_of_le (Nat.two_pow_pos _) lower))).2
          ⟨lower, upper⟩
      split
      · rename_i small
        by_contra nonzero
        have : 2 ^ 53 ≤ 2 ^ (52 + x.scale) := Nat.pow_le_pow_right (by omega) (by omega)
        omega
      · omega
    · have plain : x.magnitude = x.significand := by
        rw [magnitude_eq, flat, Nat.pow_zero, Nat.mul_one]
      rw [plain, if_pos below, flat]
  have exact : divideToEven x.magnitude (1 <<< x.scale) = x.significand := by
    rw [magnitude_eq, Nat.shiftLeft_eq, Nat.one_mul]
    exact divideToEven_mul _ (Nat.two_pow_pos _)
  have notCarried : x.significand ≠ 0x20000000000000 := by omega
  unfold nearestUnits?
  rw [Nat.div_one]
  dsimp only
  rw [scale, exact, ofParts?, if_neg notCarried, dif_pos x.normal]

/-- An integer that binary64 can represent is not rounded. -/
theorem units_ofInt {n : Int} {x : Double} (represented : n.natAbs * one = x.magnitude) :
    (ofInt n).units = n * one := by
  have nearest : nearest? (decide (n < 0)) n.natAbs 1 =
      some ⟨decide (n < 0), x.significand, x.scale, x.normal⟩ := by
    rw [nearest?, represented, nearestUnits?_magnitude]
  have magnitude : (ofInt n).magnitude = n.natAbs * one := by
    rw [ofInt, nearest, Option.getD_some, represented]
    rfl
  have sign : (ofInt n).negative = decide (n < 0) := by
    rw [ofInt, nearest, Option.getD_some]
  rw [units, sign, magnitude]
  -- The sign and the magnitude are those of the integer.
  by_cases below : n < 0
  · rw [decide_eq_true below, if_pos rfl, Int.natCast_mul]
    rw [show (n.natAbs : Int) = -n from by omega, Int.neg_mul, Int.neg_neg]
  · rw [decide_eq_false below, if_neg Bool.false_ne_true, Int.natCast_mul]
    rw [show (n.natAbs : Int) = n from by omega]

/-! ### One number for each value -/

/-- The number, with one zero in the place of two. -/
def foldZero (x : Double) : Double := if x.units = 0 then zero else x

/-- Both zeros fold to the one without a sign. -/
theorem foldZero_of_eq_zero {x : Double} (h : x.units = 0) : x.foldZero = zero := if_pos h

/-- Only a zero is folded. -/
theorem foldZero_of_ne_zero {x : Double} (h : x.units ≠ 0) : x.foldZero = x := if_neg h

/-- Folding the zeros keeps the value. -/
@[simp] theorem units_foldZero (x : Double) : x.foldZero.units = x.units := by
  by_cases h : x.units = 0
  · rw [foldZero_of_eq_zero h, h]
    rfl
  · rw [foldZero_of_ne_zero h]

/-- A number other than zero is the only one with its value: the sign and the magnitude can be read
off the value, and rounding takes the magnitude to one significand and one scale. -/
theorem eq_of_units_eq {x y : Double} (same : x.units = y.units) (nonzero : x.units ≠ 0) :
    x = y := by
  have magnitude : x.magnitude = y.magnitude := by
    rw [← natAbs_units, ← natAbs_units, same]
  have negative (z : Double) (h : z.units ≠ 0) : z.negative = decide (z.units < 0) := by
    unfold units at h ⊢
    cases z.negative with
    | false => simp
    | true =>
      simp at h ⊢
      omega
  have sign : x.negative = y.negative := by
    rw [negative x nonzero, negative y (same ▸ nonzero), same]
  have first : nearestUnits? x.negative x.magnitude 1 = some x := nearestUnits?_magnitude x _
  have second : nearestUnits? y.negative y.magnitude 1 = some y := nearestUnits?_magnitude y _
  rw [sign, magnitude, second] at first
  exact (Option.some.inj first).symm

/-- Folding the zeros leaves nothing of a number but its value. -/
theorem foldZero_eq_iff {x y : Double} : x.foldZero = y.foldZero ↔ x.units = y.units := by
  constructor
  · intro same
    rw [← units_foldZero x, ← units_foldZero y, same]
  · intro same
    by_cases h : x.units = 0
    · rw [foldZero_of_eq_zero h, foldZero_of_eq_zero (same ▸ h)]
    · rw [eq_of_units_eq same h]

/-! ### Integers -/

/-- A double is integral exactly if its units are a multiple of those of `1.0`. -/
theorem isIntegral_iff {x : Double} : x.isIntegral = true ↔ (one : Int) ∣ x.units := by
  rw [isIntegral, beq_iff_eq, ← Nat.dvd_iff_mod_eq_zero, ← Int.natAbs_dvd_natAbs,
    Int.natAbs_natCast, natAbs_units]

/-- An integral number is its integer part. -/
theorem toInt_mul_one {x : Double} (integral : x.isIntegral = true) : x.toInt * one = x.units :=
  Int.tdiv_mul_cancel (isIntegral_iff.1 integral)

/-- From `2 ^ 53` on binary64 numbers are even, so none lies strictly between an odd number and the
even one after it, nor at the odd one. -/
theorem units_lt_of_lt_succ {x : Double} {n : Nat} (odd : n % 2 = 1) (large : 0x20000000000000 ≤ n)
    (h : x.units < (n + 1) * one) : x.units < n * one := by
  by_contra between
  obtain ⟨k, hk⟩ := exists_one_eq
  have abs := natAbs_units x
  rw [Int.not_lt, ← Int.natCast_mul] at between
  rw [show (n + 1 : Int) = (n + 1 : Nat) from rfl, ← Int.natCast_mul] at h
  have low : n * one ≤ x.magnitude := by omega
  have high : x.magnitude < (n + 1) * one := by omega
  rw [magnitude_eq, hk] at low high
  -- So large a number has a scale beyond that of one, and counts an even number of ones.
  have scale : k < x.scale := by
    -- Otherwise the significand would have to be as large as the number.
    by_contra small
    have shrink : 2 ^ x.scale ≤ 2 ^ k := Nat.pow_le_pow_right (by omega) (by omega)
    have bounded : x.significand * 2 ^ x.scale < n * 2 ^ k :=
      Nat.lt_of_le_of_lt (Nat.mul_le_mul_left _ shrink)
        (Nat.mul_lt_mul_of_pos_right (Nat.lt_of_lt_of_le x.normal.1 large) (Nat.two_pow_pos k))
    omega
  obtain ⟨d, hd⟩ : ∃ d, x.scale = k + 1 + d := ⟨x.scale - (k + 1), by omega⟩
  have even : x.significand * 2 ^ x.scale = 2 * (x.significand * 2 ^ d) * 2 ^ k := by
    rw [hd, Nat.pow_add, Nat.pow_succ]
    ring
  rw [even] at low high
  have below := Nat.lt_of_mul_lt_mul_right high
  have above := Nat.le_of_mul_le_mul_right low (Nat.two_pow_pos k)
  omega

end Double

end ShapeSchema
