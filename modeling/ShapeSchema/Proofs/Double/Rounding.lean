import ShapeSchema.Json.Value
import ShapeSchema.Proofs.Double

/-!
# `ShapeSchema.Proofs.Double.Rounding`: integers in binary64

A word is converted to the nearest binary64 number. `rounded` is what becomes of a magnitude,
counted in units, and three things are known of it: it keeps the order (`rounded_mono`), it keeps a
magnitude that a significand of 53 bits can hold (`rounded_of_dvd`), and it takes integers to
integers (`one_dvd_rounded`). `roundUnits` is the same with a sign. It keeps the order too
(`roundUnits_mono`), and it keeps every binary64 number (`roundUnits_units`).

So two integers compare as before when both are converted, except that different ones may become
equal (`units_ofInt_le`). That needs both of them to be `2 ^ 53` or more in magnitude
(`le_natAbs_of_units_eq`).
-/

set_option autoImplicit false

namespace ShapeSchema

namespace Double

/-! ### Quotients -/

/-- A quotient that is rounded to even is not below the one rounded down. -/
theorem div_le_divideToEven (num den : Nat) : num / den ≤ divideToEven num den := by
  unfold divideToEven
  dsimp only
  split
  · exact Nat.le_refl _
  · split
    · exact Nat.le_succ _
    · split
      · exact Nat.le_refl _
      · exact Nat.le_succ _

/-- It is at most one above the quotient that is rounded down. -/
theorem divideToEven_le (num den : Nat) : divideToEven num den ≤ num / den + 1 := by
  unfold divideToEven
  dsimp only
  split
  · exact Nat.le_succ _
  · split
    · exact Nat.le_refl _
    · split
      · exact Nat.le_succ _
      · exact Nat.le_refl _

/-- Rounded quotients keep the order. -/
theorem divideToEven_mono {a b : Nat} (den : Nat) (h : a ≤ b) :
    divideToEven a den ≤ divideToEven b den := by
  rcases Nat.lt_or_eq_of_le (Nat.div_le_div_right (c := den) h) with less | same
  · calc divideToEven a den ≤ a / den + 1 := divideToEven_le a den
      _ ≤ b / den := less
      _ ≤ divideToEven b den := div_le_divideToEven b den
  · -- With one quotient, the larger number has the larger remainder.
    have first := Nat.div_add_mod a den
    have second := Nat.div_add_mod b den
    rw [same] at first
    have rest : a % den ≤ b % den := by omega
    unfold divideToEven
    rw [same]
    grind

/-! ### Magnitudes -/

/-- The scale of a magnitude: what remains of it is a significand of 53 bits. -/
def scaleOf (m : Nat) : Nat := if m < 0x20000000000000 then 0 else m.log2 - 52

/-- The magnitude that a magnitude is rounded to. -/
def rounded (m : Nat) : Nat := divideToEven m (2 ^ scaleOf m) * 2 ^ scaleOf m

/-- At the chosen scale a magnitude has at most 53 bits. -/
theorem lt_scaleOf (m : Nat) : m < 2 ^ (53 + scaleOf m) := by
  unfold scaleOf
  split
  · assumption
  · rename_i large
    have log := Nat.lt_log2_self (n := m)
    have enough : 53 ≤ m.log2 := (Nat.le_log2 (by omega)).2 (by omega)
    rwa [show 53 + (m.log2 - 52) = m.log2 + 1 from by omega]

/-- It has no fewer than 53 either, unless the scale is the smallest. -/
theorem le_of_scaleOf_ne_zero {m : Nat} (scaled : scaleOf m ≠ 0) : 2 ^ (52 + scaleOf m) ≤ m := by
  unfold scaleOf at scaled ⊢
  split at scaled
  · exact absurd rfl scaled
  · rename_i large
    rw [if_neg large, show 52 + (m.log2 - 52) = m.log2 from by omega]
    exact Nat.log2_self_le (by omega)

/-- No greater scale is chosen than the magnitude needs. -/
theorem scaleOf_le_of_lt {m k : Nat} (h : m < 2 ^ (53 + k)) : scaleOf m ≤ k := by
  by_contra more
  have lower := le_of_scaleOf_ne_zero (m := m) (by omega)
  have apart : 2 ^ (53 + k) ≤ 2 ^ (52 + scaleOf m) := Nat.pow_le_pow_right (by omega) (by omega)
  omega

/-- A greater magnitude has no smaller scale. -/
theorem scaleOf_mono {m m' : Nat} (h : m ≤ m') : scaleOf m ≤ scaleOf m' :=
  scaleOf_le_of_lt (Nat.lt_of_le_of_lt h (lt_scaleOf m'))

/-- The rounded significand has 53 bits at most, or is the power of two behind them. -/
theorem significand_le (m : Nat) : divideToEven m (2 ^ scaleOf m) ≤ 0x20000000000000 := by
  have below : m ≤ 0x20000000000000 * 2 ^ scaleOf m := by
    have lt := lt_scaleOf m
    rw [Nat.pow_add] at lt
    exact Nat.le_of_lt lt
  have mono := divideToEven_mono (2 ^ scaleOf m) below
  rwa [divideToEven_mul _ (Nat.two_pow_pos _)] at mono

/-- A magnitude with a scale needs all the bits. -/
theorem le_significand {m : Nat} (scaled : scaleOf m ≠ 0) :
    0x10000000000000 ≤ divideToEven m (2 ^ scaleOf m) := by
  have above := le_of_scaleOf_ne_zero scaled
  rw [Nat.pow_add] at above
  have mono := divideToEven_mono (2 ^ scaleOf m) above
  rwa [divideToEven_mul _ (Nat.two_pow_pos _)] at mono

/-- Rounding keeps the order: between two scales there is a power of two, and it is not crossed. -/
theorem rounded_mono {m m' : Nat} (h : m ≤ m') : rounded m ≤ rounded m' := by
  rcases Nat.lt_or_eq_of_le (scaleOf_mono h) with less | same
  · -- The power is at least the double of the one scale, and at most the other one's.
    have upper : rounded m ≤ 0x20000000000000 * 2 ^ scaleOf m :=
      Nat.mul_le_mul_right _ (significand_le m)
    have lower : 0x10000000000000 * 2 ^ scaleOf m' ≤ rounded m' :=
      Nat.mul_le_mul_right _ (le_significand (by omega))
    have double : 2 ^ (scaleOf m + 1) ≤ 2 ^ scaleOf m' := Nat.pow_le_pow_right (by omega) less
    rw [Nat.pow_succ] at double
    omega
  · rw [rounded, rounded, same]
    exact Nat.mul_le_mul_right _ (divideToEven_mono _ h)

/-- A magnitude that its scale divides is kept. -/
theorem rounded_of_dvd {m : Nat} (exact_ : 2 ^ scaleOf m ∣ m) : rounded m = m := by
  have whole := Nat.div_mul_cancel exact_
  have quotient : divideToEven m (2 ^ scaleOf m) = m / 2 ^ scaleOf m := by
    have read := divideToEven_mul (m / 2 ^ scaleOf m) (Nat.two_pow_pos (scaleOf m))
    rwa [whole] at read
  rw [rounded, quotient, whole]

/-- Rounding takes integers to integers. -/
theorem one_dvd_rounded {m : Nat} (integral : one ∣ m) : one ∣ rounded m := by
  obtain ⟨k, hk⟩ := exists_one_eq
  rw [hk] at integral ⊢
  by_cases fine : scaleOf m ≤ k
  · rwa [rounded_of_dvd (Nat.dvd_trans (Nat.pow_dvd_pow 2 fine) integral)]
  · exact Nat.dvd_trans (Nat.pow_dvd_pow 2 (by omega)) (Nat.dvd_mul_left _ _)

/-- A power of two needs one bit, and is kept. -/
theorem rounded_two_pow (n : Nat) : rounded (2 ^ n) = 2 ^ n := by
  have scale : scaleOf (2 ^ n) ≤ n :=
    scaleOf_le_of_lt (Nat.pow_lt_pow_right (by omega) (by omega))
  exact rounded_of_dvd (Nat.pow_dvd_pow 2 scale)

/-- An integer up to `2 ^ 53` is kept. -/
theorem rounded_mul_one {a : Nat} (small : a ≤ 0x20000000000000) : rounded (a * one) = a * one := by
  obtain ⟨k, hk⟩ := exists_one_eq
  rw [hk]
  rcases Nat.lt_or_eq_of_le small with less | rfl
  · have below : a * 2 ^ k < 2 ^ (53 + k) := by
      rw [Nat.pow_add]
      exact Nat.mul_lt_mul_of_pos_right less (Nat.two_pow_pos k)
    apply rounded_of_dvd
    exact Nat.dvd_trans (Nat.pow_dvd_pow 2 (scaleOf_le_of_lt below)) (Nat.dvd_mul_left _ _)
  · have power : 0x20000000000000 * 2 ^ k = 2 ^ (53 + k) := (Nat.pow_add 2 53 k).symm
    rw [power, rounded_two_pow]

/-- The magnitude of a binary64 number is kept. -/
theorem rounded_magnitude (x : Double) : rounded x.magnitude = x.magnitude := by
  have bits : x.magnitude < 2 ^ (53 + x.scale) := by
    rw [magnitude_eq, Nat.pow_add]
    exact Nat.mul_lt_mul_of_pos_right x.normal.1 (Nat.two_pow_pos _)
  apply rounded_of_dvd
  rw [magnitude_eq] at bits ⊢
  exact Nat.dvd_trans (Nat.pow_dvd_pow 2 (scaleOf_le_of_lt bits)) (Nat.dvd_mul_left _ _)

/-! ### Values with a sign -/

/-- The value that a value is rounded to, both counted in units. The sign stays as it is. -/
def roundUnits (u : Int) : Int :=
  if u < 0 then -(rounded u.natAbs : Int) else rounded u.natAbs

/-- Rounding keeps the order on both sides of zero, and does not cross it. -/
theorem roundUnits_mono {u v : Int} (h : u ≤ v) : roundUnits u ≤ roundUnits v := by
  unfold roundUnits
  by_cases below : u < 0
  · rw [if_pos below]
    by_cases under : v < 0
    · -- Below zero the larger value has the smaller magnitude.
      have mono := rounded_mono (show v.natAbs ≤ u.natAbs by omega)
      rw [if_pos under]
      omega
    · rw [if_neg under]
      omega
  · have mono := rounded_mono (show u.natAbs ≤ v.natAbs by omega)
    rw [if_neg below, if_neg (by omega)]
    omega

/-- A binary64 number is its own nearest one. -/
theorem roundUnits_units (x : Double) : roundUnits x.units = x.units := by
  have abs := natAbs_units x
  rw [roundUnits, abs, rounded_magnitude]
  split <;> omega

/-! ### Conversion -/

/-- The nearest number to a magnitude that is not beyond the largest. -/
theorem nearestUnits?_eq {m : Nat} (bounded : scaleOf m ≤ 2044) (negative : Bool) :
    ∃ x, nearestUnits? negative m 1 = some x ∧ x.magnitude = rounded m ∧ x.negative = negative := by
  have upper := significand_le m
  have lower := @le_significand m
  have shift : 1 <<< scaleOf m = 2 ^ scaleOf m := Nat.one_shiftLeft _
  have scale : (if m / 1 < 0x20000000000000 then 0 else (m / 1).log2 - 52) = scaleOf m := by
    rw [Nat.div_one, scaleOf]
  unfold nearestUnits?
  dsimp only
  rw [scale, shift, ofParts?]
  by_cases carried : divideToEven m (2 ^ scaleOf m) = 0x20000000000000
  · -- Rounding up has made a power of two, which is written with half the significand.
    rw [if_pos carried]
    have normal : 0x10000000000000 < 0x20000000000000 ∧ scaleOf m + 1 ≤ 2045 ∧
        (0x10000000000000 ≤ 0x10000000000000 ∨ scaleOf m + 1 = 0) :=
      ⟨by decide, by omega, .inl (by decide)⟩
    rw [dif_pos normal]
    refine ⟨_, rfl, ?_, rfl⟩
    rw [magnitude_eq, rounded, carried]
    show 0x10000000000000 * 2 ^ (scaleOf m + 1) = _
    rw [Nat.pow_succ]
    omega
  · rw [if_neg carried]
    -- The quotient is a significand as it is: it is full, or the scale is zero.
    have normal : divideToEven m (2 ^ scaleOf m) < 0x20000000000000 ∧ scaleOf m ≤ 2045 ∧
        (0x10000000000000 ≤ divideToEven m (2 ^ scaleOf m) ∨ scaleOf m = 0) := by
      by_cases flat : scaleOf m = 0
      · exact ⟨by omega, by omega, .inr flat⟩
      · exact ⟨by omega, by omega, .inl (lower flat)⟩
    rw [dif_pos normal]
    exact ⟨_, rfl, magnitude_eq _, rfl⟩

/-- The integers of words are not beyond the largest number. -/
theorem scaleOf_word {a : Nat} (word : a ≤ 0x10000000000000000) : scaleOf (a * one) ≤ 2044 := by
  have power (n : Nat) : ∃ k ≤ n, 1 <<< n = 2 ^ k := ⟨n, Nat.le_refl n, Nat.one_shiftLeft n⟩
  obtain ⟨k, few, hk⟩ := power 1074
  have bound : a * 2 ^ k ≤ 2 ^ 64 * 2 ^ k := Nat.mul_le_mul_right _ word
  rw [← Nat.pow_add] at bound
  have below : 2 ^ (64 + k) < 2 ^ (53 + (k + 12)) := Nat.pow_lt_pow_right (by omega) (by omega)
  have scale := scaleOf_le_of_lt (Nat.lt_of_le_of_lt bound below)
  rw [one, hk]
  omega

/-- The value of a converted integer. -/
theorem units_ofInt_word {n : Int} (word : n.natAbs ≤ 0x10000000000000000) :
    (ofInt n).units =
      if n < 0 then -(rounded (n.natAbs * one) : Int) else rounded (n.natAbs * one) := by
  obtain ⟨x, nearest, magnitude, sign⟩ :=
    nearestUnits?_eq (scaleOf_word word) (decide (n < 0))
  rw [ofInt, nearest?, nearest, Option.getD_some, units, magnitude, sign]
  by_cases below : n < 0
  · rw [decide_eq_true below, if_pos rfl, if_pos below]
  · rw [decide_eq_false below, if_neg Bool.false_ne_true, if_neg below]

/-- A word is converted to its value, rounded. -/
theorem units_ofInt_eq {n : Int} (word : n.natAbs ≤ 0x10000000000000000) :
    (ofInt n).units = roundUnits (n * one) := by
  have positive : (0 : Int) < one := Int.natCast_pos.2 one_pos
  have sign : n * one < 0 ↔ n < 0 := by
    calc n * one < 0 ↔ n * one < 0 * one := by rw [Int.zero_mul]
      _ ↔ n < 0 := ⟨fun h => Int.lt_of_mul_lt_mul_right h (Int.le_of_lt positive),
        fun h => Int.mul_lt_mul_of_pos_right h positive⟩
  rw [units_ofInt_word word, roundUnits, Int.natAbs_mul, Int.natAbs_natCast]
  simp only [sign]

section Words

variable {a b : Int} (wordA : a.natAbs ≤ 0x10000000000000000)
  (wordB : b.natAbs ≤ 0x10000000000000000)

include wordA

/-- A converted integer has no fraction. -/
theorem isIntegral_ofInt : (ofInt a).isIntegral = true := by
  have integral : one ∣ rounded (a.natAbs * one) := one_dvd_rounded (Nat.dvd_mul_left _ _)
  have whole : (one : Int) ∣ rounded (a.natAbs * one) := Int.natCast_dvd_natCast.2 integral
  rw [isIntegral_iff, units_ofInt_word wordA]
  split
  · exact Int.dvd_neg.2 whole
  · exact whole

/-- Integers up to `2 ^ 53` in magnitude are converted exactly. -/
theorem units_ofInt_small (small : a.natAbs ≤ 0x20000000000000) : (ofInt a).units = a * one := by
  rw [units_ofInt_word wordA, rounded_mul_one small, Int.natCast_mul]
  split
  · rw [← Int.neg_mul, show -(a.natAbs : Int) = a from by omega]
  · rw [show (a.natAbs : Int) = a from by omega]

include wordB

/-- Conversion keeps the order. -/
theorem units_ofInt_le (h : a ≤ b) : (ofInt a).units ≤ (ofInt b).units := by
  rw [units_ofInt_eq wordA, units_ofInt_eq wordB]
  exact roundUnits_mono (Int.mul_le_mul_of_nonneg_right h (Int.natCast_nonneg one))

/-- Of two integers in order, the one below `2 ^ 53` in magnitude keeps them apart: its neighbour is
converted exactly too. -/
theorem units_ofInt_lt (h : a < b)
    (small : a.natAbs < 0x20000000000000 ∨ b.natAbs < 0x20000000000000) :
    (ofInt a).units < (ofInt b).units := by
  have positive : (0 : Int) < one := Int.natCast_pos.2 one_pos
  rcases small with small | small
  · -- The next integer is exact as well, and it is not above the other one.
    calc (ofInt a).units = a * one := units_ofInt_small wordA (by omega)
      _ < (a + 1) * one := Int.mul_lt_mul_of_pos_right (Int.lt_succ a) positive
      _ = (ofInt (a + 1)).units := (units_ofInt_small (by omega) (by omega)).symm
      _ ≤ (ofInt b).units := units_ofInt_le (by omega) wordB h
  · calc (ofInt a).units ≤ (ofInt (b - 1)).units := units_ofInt_le wordA (by omega) (by omega)
      _ = (b - 1) * one := units_ofInt_small (by omega) (by omega)
      _ < b * one := Int.mul_lt_mul_of_pos_right (Int.sub_one_lt_of_le (Int.le_refl b)) positive
      _ = (ofInt b).units := (units_ofInt_small wordB (by omega)).symm

/-- Different integers that become equal are both `2 ^ 53` or more in magnitude. -/
theorem le_natAbs_of_units_eq (differ : a ≠ b) (same : (ofInt a).units = (ofInt b).units) :
    0x20000000000000 ≤ a.natAbs ∧ 0x20000000000000 ≤ b.natAbs := by
  by_contra small
  rcases Int.lt_or_gt_of_ne differ with less | more
  · have apart := units_ofInt_lt wordA wordB less (by omega)
    omega
  · have apart := units_ofInt_lt wordB wordA more (by omega)
    omega

end Words

end Double

/-- The integers of documents are words, signed or not. -/
theorem WordInt.natAbs_le (n : WordInt) : n.val.natAbs ≤ 0x10000000000000000 := by
  have word := n.property
  omega

end ShapeSchema
