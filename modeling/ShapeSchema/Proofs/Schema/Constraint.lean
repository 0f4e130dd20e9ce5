import Mathlib.Data.List.Basic
import ShapeSchema.Proofs.Double
import ShapeSchema.Proofs.Registry
import ShapeSchema.Schema.Compiler

/-!
# `ShapeSchema.Proofs.Schema.Constraint`: which shapes have a node

`Shape.Valid` says, kind by kind, what a shape needs besides its targets: a list its element, a map
its value, a list or a string sound bounds of its length, a number bounds in order. Bounds are
compared as numbers here, and `node_isOk_iff` says that the construction of a node fails for no
other reason.

The construction compares the bounds of a length after it has turned them into words. The only bound
that this changes is `2 ^ 64`, and the word that it becomes is odd, so no other bound becomes that
one (`lengthConstraint_isOk_iff`).
-/

set_option autoImplicit false

namespace ShapeSchema

/-! ### Bounds -/

/-- A whole number from 0 to `2 ^ 64`, which a length can be compared with. -/
def Double.IsCount (x : Double) : Prop :=
  ∃ n : Nat, x.units = n * Double.one ∧ n ≤ 0x10000000000000000

/-- The lower end is not above the upper one. -/
def Bounds.Ordered (b : Bounds) : Prop := ∀ lo ∈ b.min, ∀ hi ∈ b.max, lo.units ≤ hi.units

/-- The bounds are those of a length. -/
structure Bounds.IsLength (b : Bounds) : Prop where
  min : ∀ lo ∈ b.min, lo.IsCount
  max : ∀ hi ∈ b.max, hi.IsCount
  ordered : b.Ordered

/-- The integer part of a count is the count. -/
theorem Double.toInt_of_count {x : Double} {n : Nat} (value : x.units = n * Double.one) :
    x.toInt = n := by
  have positive := Double.one_pos
  rw [toInt, value]
  exact Int.mul_tdiv_cancel _ (by omega)

/-- What passes the checks on the bound of a length is a count. -/
theorem Double.isCount_iff {x : Double} : x.IsCount ↔
    x.lt .zero = false ∧ x.isIntegral = true ∧ x.toInt ≤ 0x10000000000000000 := by
  have positive := Double.one_pos
  have zero : Double.zero.units = 0 := by decide
  rw [lt, decide_eq_false_iff_not, zero]
  constructor
  · rintro ⟨n, value, bounded⟩
    refine ⟨?_, isIntegral_iff.2 ⟨n, by rw [value, Int.mul_comm]⟩, ?_⟩
    · rw [value, ← Int.natCast_mul]
      omega
    · rw [toInt_of_count value]
      omega
  · rintro ⟨notNegative, integral, bounded⟩
    have value := toInt_mul_one integral
    -- An integral number that is not negative is a count.
    have count : 0 ≤ x.toInt := by
      by_contra negative
      have := Int.mul_neg_of_neg_of_pos (show x.toInt < 0 by omega)
        (show (0 : Int) < Double.one by omega)
      omega
    obtain ⟨n, hn⟩ := Int.eq_ofNat_of_zero_le count
    rw [hn] at value bounded
    exact ⟨n, value.symm, by omega⟩

/-- The bound of a length is a count, and becomes the word for it. -/
theorem lengthBound_ok_iff {shape : String} {side : BoundSide} {bound : Double} {word : UInt64} :
    lengthBound shape side bound = .ok word ↔
      ∃ n : Nat, bound.units = n * Double.one ∧ n ≤ 0x10000000000000000 ∧
        word = .ofNat (min n 0xFFFFFFFFFFFFFFFF) := by
  -- A count that is too large for a word becomes the largest one.
  have clamped {n : Nat} (value : bound.units = n * Double.one) :
      (bound.clampTo 0 0xFFFFFFFFFFFFFFFF).toNat = min n 0xFFFFFFFFFFFFFFFF := by
    rw [Double.clampTo, Double.toInt_of_count value]
    split
    · omega
    · split <;> omega
  have accepted : (bound.lt .zero || !bound.isIntegral ||
      decide (0x10000000000000000 < bound.toInt)) = false ↔ bound.IsCount := by
    rw [Double.isCount_iff, Bool.or_eq_false_iff, Bool.or_eq_false_iff, Bool.not_eq_false',
      decide_eq_false_iff_not, Int.not_lt, and_assoc]
  unfold lengthBound
  constructor
  · intro h
    split at h
    · cases h
    · rename_i passed
      obtain ⟨n, value, bounded⟩ := accepted.1 (Bool.not_eq_true _ ▸ passed)
      refine ⟨n, value, bounded, ?_⟩
      rw [← clamped value]
      exact (Except.ok.inj h).symm
  · rintro ⟨n, value, bounded, rfl⟩
    rw [accepted.2 ⟨n, value, bounded⟩, if_neg Bool.false_ne_true, clamped value]

/-- A bound that is there is read as the bound that it is. -/
theorem lengthBound?_some_ok {shape : String} {side : BoundSide} {bound : Double}
    {word : Option UInt64} :
    lengthBound? shape side (some bound) = .ok word ↔
      ∃ w, word = some w ∧ lengthBound shape side bound = .ok w := by
  rw [lengthBound?]
  cases lengthBound shape side bound with
  | error defect => simp [Except.map]
  | ok w => simp [Except.map, eq_comm]

/-- Reading a bound that may be absent fails only where there is one that is no count. -/
theorem lengthBound?_isOk_iff {shape : String} {side : BoundSide} {bound : Option Double} :
    (∃ word, lengthBound? shape side bound = .ok word) ↔ ∀ x ∈ bound, x.IsCount := by
  cases bound with
  | none => simp [lengthBound?]
  | some x =>
    simp only [Option.mem_some, forall_eq']
    constructor
    · rintro ⟨word, read⟩
      obtain ⟨w, -, read⟩ := lengthBound?_some_ok.1 read
      obtain ⟨n, value, bounded, -⟩ := lengthBound_ok_iff.1 read
      exact ⟨n, value, bounded⟩
    · rintro ⟨n, value, bounded⟩
      have read : lengthBound shape side x = .ok (.ofNat (min n 0xFFFFFFFFFFFFFFFF)) :=
        lengthBound_ok_iff.2 ⟨n, value, bounded, rfl⟩
      exact ⟨_, lengthBound?_some_ok.2 ⟨_, rfl, read⟩⟩

/-- The words of two counts are in order exactly if the counts are. -/
theorem le_of_lengthBound_iff {shape : String} {side side' : BoundSide} {lo hi : Double}
    {lo' hi' : UInt64} (min : lengthBound shape side lo = .ok lo')
    (max : lengthBound shape side' hi = .ok hi') : ¬ hi' < lo' ↔ lo.units ≤ hi.units := by
  obtain ⟨a, ha, boundedA, rfl⟩ := lengthBound_ok_iff.1 min
  obtain ⟨b, hb, boundedB, rfl⟩ := lengthBound_ok_iff.1 max
  -- Only `2 ^ 64` and the number before it become the same word, and no bound is the latter.
  have odd {x : Double} {n : Nat} (value : x.units = n * Double.one) : n ≠ 0xFFFFFFFFFFFFFFFF := by
    rintro rfl
    have positive := Double.one_pos
    have := Double.units_lt_of_lt_succ (x := x) (by decide : 0xFFFFFFFFFFFFFFFF % 2 = 1) (by decide)
      (by omega)
    omega
  have oddA := odd ha
  have oddB := odd hb
  rw [ha, hb, Double.mul_one_le_mul_one, UInt64.lt_iff_toNat_lt, UInt64.toNat_ofNat',
    UInt64.toNat_ofNat']
  omega

/-- A length constraint is read exactly if its bounds, where there are any, are those of a length.
-/
theorem lengthConstraint_isOk_iff (shape : String) {traits : List Trait} :
    (∃ length, lengthConstraint shape traits = .ok length) ↔
      ∀ b ∈ Trait.length? traits, b.IsLength := by
  unfold lengthConstraint
  cases Trait.length? traits with
  | none => simp
  | some b =>
    simp only [Option.mem_some, forall_eq']
    obtain ⟨min, max⟩ := b
    constructor
    · -- The steps are taken apart in the order of the source: each side is read, then the sides are
      -- compared.
      rintro ⟨length, h⟩
      obtain ⟨lower, readMin, h⟩ := except_bind_ok h
      obtain ⟨upper, readMax, h⟩ := except_bind_ok h
      refine ⟨lengthBound?_isOk_iff.1 ⟨_, readMin⟩, lengthBound?_isOk_iff.1 ⟨_, readMax⟩, ?_⟩
      intro lo memMin hi memMax
      cases Option.mem_def.1 memMin
      cases Option.mem_def.1 memMax
      obtain ⟨lo', rfl, readLo⟩ := lengthBound?_some_ok.1 readMin
      obtain ⟨hi', rfl, readHi⟩ := lengthBound?_some_ok.1 readMax
      dsimp only at h
      split at h
      · cases h
      · -- The words were compared, and they are in order exactly if the counts are.
        rename_i notInverted
        exact (le_of_lengthBound_iff readLo readHi).1 notInverted
    · intro valid
      obtain ⟨lower, readMin⟩ := lengthBound?_isOk_iff.2 valid.min
      obtain ⟨upper, readMax⟩ := lengthBound?_isOk_iff.2 valid.max
      dsimp only at readMin readMax ⊢
      rw [readMin, readMax]
      -- Without one of the sides there is nothing to compare.
      cases min with
      | none =>
        cases readMin
        exact ⟨_, rfl⟩
      | some lo =>
        cases max with
        | none =>
          cases readMax
          cases lower <;> exact ⟨_, rfl⟩
        | some hi =>
          obtain ⟨lo', rfl, readLo⟩ := lengthBound?_some_ok.1 readMin
          obtain ⟨hi', rfl, readHi⟩ := lengthBound?_some_ok.1 readMax
          have notInverted := (le_of_lengthBound_iff readLo readHi).2 (valid.ordered lo rfl hi rfl)
          exact ⟨_, if_neg notInverted⟩

/-- A range constraint is read exactly if its bounds are in order. -/
theorem rangeConstraint_isOk_iff (shape : String) {traits : List Trait} :
    (∃ range, rangeConstraint shape traits = .ok range) ↔
      ∀ b ∈ Trait.range? traits, b.Ordered := by
  unfold rangeConstraint
  cases Trait.range? traits with
  | none => simp
  | some b =>
    simp only [Option.mem_some, forall_eq']
    obtain ⟨min, max⟩ := b
    cases min with
    | none => simp [Bounds.Ordered]
    | some lo =>
      cases max with
      | none => simp [Bounds.Ordered]
      | some hi =>
        have inverted : hi.lt lo = true ↔ ¬ lo.units ≤ hi.units := by
          rw [Double.lt, decide_eq_true_iff, Int.not_le]
        by_cases order : lo.units ≤ hi.units <;> simp [Bounds.Ordered, inverted, order]

/-! ### Shapes -/

/-- The shape has what its kind needs besides shapes for its targets. An enum trait puts the length
of a string aside, and no other kind than those listed looks at bounds. -/
def Shape.Valid (s : Shape) : Prop :=
  match s.kind with
  | .list | .set => s.element.isSome = true ∧ ∀ b ∈ Trait.length? s.traits, b.IsLength
  | .map => s.value.isSome = true
  | .string | .document =>
    Trait.enum? s.traits = none → ∀ b ∈ Trait.length? s.traits, b.IsLength
  | .byte | .short | .integer | .long | .bigInteger | .float | .double | .bigDecimal =>
    ∀ b ∈ Trait.range? s.traits, b.Ordered
  | _ => True

/-- A string constraint fails only at the length: a pattern that is rejected is dropped. -/
theorem stringConstraint_isOk_iff (shape : String) {traits : List Trait} :
    (∃ c, stringConstraint shape traits = .ok c) ↔ ∀ b ∈ Trait.length? traits, b.IsLength := by
  rw [← lengthConstraint_isOk_iff shape]
  refine exists_bind_ok_iff fun length => ?_
  cases Trait.pattern? traits with
  | none => exact ⟨_, rfl⟩
  | some source =>
    dsimp only
    cases Regex.compile source with
    | ok pattern => exact ⟨_, rfl⟩
    | error e => exact ⟨_, rfl⟩

namespace Shape

section Text

variable {s : Shape} (text : s.kind = .string ∨ s.kind = .document)

include text

/-- Strings and documents lead to nothing. -/
theorem slots_of_text : s.slots = [] := by
  unfold slots
  rcases text with kind | kind <;> rw [kind]

/-- The node of a text is made from its traits alone, whatever references there are. -/
theorem node_of_text (refs : List Ref) : s.node refs = s.stringNode := by
  unfold node
  rcases text with kind | kind <;> rw [kind]

end Text

/-- The node of a text is made exactly if its length is sound. An enumeration has no length. -/
theorem stringNode_isOk_iff (s : Shape) : (∃ built, s.stringNode = .ok built) ↔
    (Trait.enum? s.traits = none → ∀ b ∈ Trait.length? s.traits, b.IsLength) := by
  unfold stringNode
  cases Trait.enum? s.traits with
  | some values => simp
  | none =>
    rw [forall_prop_of_true rfl, ← stringConstraint_isOk_iff s.id]
    exact exists_bind_ok_iff fun c => ⟨_, rfl⟩

/-- The node of a number is made exactly if its bounds are in order. -/
theorem numberNode_isOk_iff (s : Shape) (integer : Bool) :
    (∃ built, s.numberNode integer = .ok built) ↔ ∀ b ∈ Trait.range? s.traits, b.Ordered := by
  rw [← rangeConstraint_isOk_iff s.id]
  exact exists_bind_ok_iff fun range => ⟨_, rfl⟩

/-- The node of a shape is built, once its slots are filled, exactly if the shape is valid. -/
theorem node_isOk_iff (s : Shape) {refs : List Ref} (filled : refs.length = s.slots.length) :
    (∃ built, s.node refs = .ok built) ↔ s.Valid := by
  unfold slots at filled
  unfold node Valid
  cases hkind : s.kind
  case string | document => exact stringNode_isOk_iff s
  case byte | short | integer | long | bigInteger => exact numberNode_isOk_iff s true
  case float | double | bigDecimal => exact numberNode_isOk_iff s false
  -- There are as many references as slots, so a missing element leaves none.
  case list | set =>
    rw [hkind] at filled
    cases helement : s.element with
    | none =>
      rw [helement] at filled
      cases List.eq_nil_of_length_eq_zero filled
      simp
    | some element =>
      rw [helement] at filled
      obtain ⟨ref, rfl⟩ := List.length_eq_one_iff.1 filled
      simp only [Option.isSome_some, true_and]
      rw [← lengthConstraint_isOk_iff s.id]
      exact exists_bind_ok_iff fun length => ⟨_, rfl⟩
  -- The key has a slot in any case, so a missing value leaves one reference.
  case map =>
    rw [hkind] at filled
    cases hvalue : s.value with
    | none =>
      rw [hvalue] at filled
      obtain ⟨key, rfl⟩ := List.length_eq_one_iff.1 filled
      simp
    | some value =>
      rw [hvalue] at filled
      obtain ⟨key, value, rfl⟩ := List.length_eq_two.1 filled
      simp
  all_goals simp

end Shape

end ShapeSchema
