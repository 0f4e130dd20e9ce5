import ShapeSchema.Proofs.Double
import ShapeSchema.Proofs.JsonSchema.Semantics
import ShapeSchema.Schema.Emission

/-!
# `ShapeSchema.Proofs.JsonSchema.Numbers`: bounds in a written schema

A bound of a model is written into a schema as an integer if a signed word holds it, and as a
binary64 number otherwise. `schemaNumber_spec` says what a reader of the schema gets: the bound
itself as a binary64 number, and as an exact number too, but for `2 ^ 63`, which is written as the
largest word, one less. `WrittenAs` also says which bounds are written in which of the two ways, and
`exists_writtenAs` that every bound is.
-/

set_option autoImplicit false

namespace ShapeSchema

/-- What a bound says when it is read back from a schema: as a binary64 number, the bound itself; as
an exact number the bound too, but one less than `2 ^ 63` for that one. -/
theorem Double.schemaNumber_spec (x : Double) :
    ∃ n : Json.Number, x.schemaNumber = .number n ∧ n.roundedUnits = x.units ∧
      (n.exactUnits = x.units ∨
        x.units = 0x8000000000000000 * Double.one ∧
          n.exactUnits = 0x7FFFFFFFFFFFFFFF * Double.one) := by
  unfold Double.schemaNumber
  split
  · rename_i written
    simp only [Bool.and_eq_true, decide_eq_true_eq] at written
    obtain ⟨⟨integral, low⟩, high⟩ := written
    have value := Double.toInt_mul_one integral
    by_cases last : x.toInt = 0x8000000000000000
    · -- The one bound that no signed word holds.
      have clamped : x.clampTo (-0x8000000000000000) 0x7FFFFFFFFFFFFFFF = 0x7FFFFFFFFFFFFFFF := by
        rw [Double.clampTo, last]
        decide
      rw [clamped, ← value, last]
      refine ⟨.int ⟨0x7FFFFFFFFFFFFFFF, by decide⟩, by rfl, ?_, .inr ⟨rfl, rfl⟩⟩
      decide +kernel
    · have clamped : x.clampTo (-0x8000000000000000) 0x7FFFFFFFFFFFFFFF = x.toInt := by
        rw [Double.clampTo, if_neg (by omega), if_neg (by omega)]
      have word : -0x8000000000000000 ≤ x.toInt ∧ x.toInt < 0x10000000000000000 := by omega
      rw [clamped, Json.ofInt, dif_pos word]
      refine ⟨.int ⟨x.toInt, word⟩, rfl, ?_, .inl value⟩
      have represented : x.toInt.natAbs * Double.one = x.magnitude := by
        rw [← Double.natAbs_units, ← value, Int.natAbs_mul, Int.natAbs_natCast]
      rw [Json.Number.roundedUnits, Json.Number.toDouble, Double.units_ofInt represented, value]
  · exact ⟨.real x, rfl, rfl, .inl rfl⟩

/-- A bound that is written as a number is read back as it was. -/
theorem Double.roundedUnits_of_written {bound : Double} {b : Json.Number}
    (written : bound.schemaNumber = .number b) : b.roundedUnits = bound.units := by
  obtain ⟨b', written', value, -⟩ := bound.schemaNumber_spec
  rw [written] at written'
  cases written'
  exact value

/-- An exact bound is the bound of the model, or `2 ^ 63` written as its predecessor. -/
theorem Double.exactUnits_of_written {bound : Double} {b : Json.Number}
    (written : bound.schemaNumber = .number b) :
    b.exactUnits = bound.units ∨
      bound.units = 0x8000000000000000 * one ∧ b.exactUnits = 0x7FFFFFFFFFFFFFFF * one := by
  obtain ⟨b', written', -, exactly⟩ := bound.schemaNumber_spec
  rw [written] at written'
  cases written'
  exact exactly

namespace Double

/-- An integer from `-2 ^ 63` to `2 ^ 63`, both included. -/
def InWord (x : Double) : Prop :=
  ∃ k : Int, x.units = k * one ∧ -0x8000000000000000 ≤ k ∧ k ≤ 0x8000000000000000

/-- A whole number of ones is converted to that number. -/
theorem toInt_of_units {x : Double} {k : Int} (value : x.units = k * one) : x.toInt = k := by
  have positive := one_pos
  rw [toInt, value]
  exact Int.mul_tdiv_cancel _ (by omega)

/-- The numbers that pass the test of `schemaNumber`. -/
theorem inWord_iff {x : Double} :
    x.InWord ↔ (x.isIntegral && decide (-0x8000000000000000 ≤ x.toInt) &&
      decide (x.toInt ≤ 0x8000000000000000)) = true := by
  simp only [Bool.and_eq_true, decide_eq_true_eq, and_assoc]
  constructor
  · rintro ⟨k, value, low, high⟩
    rw [toInt_of_units value]
    exact ⟨isIntegral_iff.2 ⟨k, by rw [value, Int.mul_comm]⟩, low, high⟩
  · rintro ⟨integral, low, high⟩
    exact ⟨x.toInt, (toInt_mul_one integral).symm, low, high⟩

/-- Only `2 ^ 63` is changed by what is left of an integer in a word, and it loses one. -/
theorem clampTo_of_units {x : Double} {k : Int} (value : x.units = k * one)
    (low : -0x8000000000000000 ≤ k) :
    x.clampTo (-0x8000000000000000) 0x7FFFFFFFFFFFFFFF = min k 0x7FFFFFFFFFFFFFFF := by
  rw [clampTo, toInt_of_units value]
  split
  · omega
  · split <;> omega

/-- An integral bound in the range of words is written as an integer. That is its value, unless the
value is the end of the range. -/
theorem schemaNumber_of_inWord {x : Double} (word : x.InWord) :
    ∃ (a : WordInt) (k : Int), x.schemaNumber = .number (.int a) ∧ x.units = k * one ∧
      a.val = min k 0x7FFFFFFFFFFFFFFF := by
  obtain ⟨k, value, low, high⟩ := id word
  refine ⟨⟨min k 0x7FFFFFFFFFFFFFFF, by omega⟩, k, ?_, value, rfl⟩
  rw [schemaNumber, if_pos (inWord_iff.1 word), clampTo_of_units value low, Json.ofInt, dif_pos]

/-- Any other bound is written as the binary64 number it is. -/
theorem schemaNumber_of_not_inWord {x : Double} (other : ¬ x.InWord) :
    x.schemaNumber = .number (.real x) := by
  rw [schemaNumber, if_neg (mt inWord_iff.2 other)]

/-- The number that is written for a bound.

- `value`: read back as a binary64 number it is the bound, or the positive zero for either zero;
- `integer`: it is written as an integer exactly if the bound is one, from `-2 ^ 63` to `2 ^ 63`;
- `word`: the integer is the bound, or the largest signed word in the place of `2 ^ 63`;
- `real`: any other bound is written as it is. -/
structure WrittenAs (x : Double) (n : Json.Number) : Prop where
  written : x.schemaNumber = .number n
  value : n.toDouble = x.foldZero
  integer : (∃ a, n = .int a) ↔ x.InWord
  word : ∀ a, n = .int a → ∃ k : Int, x.units = k * one ∧ a.val = min k 0x7FFFFFFFFFFFFFFF
  real : ¬ x.InWord → n = .real x

/-- An integer that is read as zero is 0, and read as the positive zero. -/
theorem toDouble_of_units_eq_zero {a : WordInt} {x : Double} (zero : x.units = 0) {k : Int}
    (value : x.units = k * one) (kept : a.val = min k 0x7FFFFFFFFFFFFFFF) :
    (Json.Number.int a).toDouble = .zero := by
  have positive := one_pos
  have none : k = 0 := (Int.mul_eq_zero.1 (value.symm.trans zero)).resolve_right (by omega)
  rw [Json.Number.toDouble, kept, none]
  decide

/-- Every bound is written as a number that keeps it. -/
theorem exists_writtenAs (x : Double) : ∃ n, x.WrittenAs n := by
  obtain ⟨n, written, rounded, -⟩ := x.schemaNumber_spec
  have same : n.toDouble.units = x.units := rounded
  refine ⟨n, ?_⟩
  by_cases word : x.InWord
  · obtain ⟨a, k, integer, value, kept⟩ := schemaNumber_of_inWord word
    rw [written] at integer
    obtain rfl := Json.number.inj integer
    constructor
    case written => exact written
    case value =>
      by_cases zero : x.units = 0
      · rw [foldZero_of_eq_zero zero, toDouble_of_units_eq_zero zero value kept]
      · rw [foldZero_of_ne_zero zero]
        exact eq_of_units_eq same (same ▸ zero)
    case integer => exact iff_of_true ⟨a, rfl⟩ word
    case word =>
      rintro _ ⟨⟩
      exact ⟨k, value, kept⟩
    case real => exact fun other => absurd word other
  · have real := schemaNumber_of_not_inWord word
    rw [written] at real
    obtain rfl := Json.number.inj real
    -- Zero is an integer, so this bound is none.
    have nonzero : x.units ≠ 0 := fun zero =>
      word ⟨0, by rw [zero, Int.zero_mul], by decide, by decide⟩
    constructor
    case written => exact written
    case value => exact (foldZero_of_ne_zero nonzero).symm
    case integer =>
      refine iff_of_false ?_ word
      rintro ⟨a, same⟩
      cases same
    case word =>
      intro a same
      cases same
    case real => exact fun _ => rfl

end Double

end ShapeSchema
