import ShapeSchema.Proofs.Double.Rounding
import ShapeSchema.Proofs.JsonSchema.Numbers
import ShapeSchema.Proofs.Schema.Location

/-!
# `ShapeSchema.Proofs.JsonSchema.Slips`: numbers that rounding takes to a bound

A validator compares numbers as binary64 numbers. A reader of the emitted schema may read them more
finely, and then a number can be outside of a bound for the reader and at the bound for the
validator, because rounding takes it there. Such a number slips past the bound (`SlipsPast`).

`Finer` is all that a comparison of validator and schema needs to know of a reading: it finds the
same integers as binary64, and rounding keeps the order that it finds. Under such a reading a number
is within a written bound exactly if binary64 finds it within the bound and it does not slip
(`Finer.minimum_iff`, `Finer.maximum_iff`). Reading binary64 numbers lets no number slip, and
reading numbers exactly only lets numbers slip that binary64 does not represent, or `2 ^ 63`, which
is written as its predecessor (`not_slipsPast_of_isExact`).

`CompiledModel.NoneSlips` says of a whole value that none of its numbers slips past a bound of the
node that it is checked against, and the lemmas on it follow the kinds of nodes.
-/

set_option autoImplicit false

namespace ShapeSchema

open JsonSchema (Reading)

/-! ### Past a bound -/

namespace Json.Number

/-- Binary64 takes the number to the bound, and the reading finds it below what is written for the
bound. -/
def RisesTo (reading : Reading) (n : Json.Number) (bound : Double) : Prop :=
  n.roundedUnits = bound.units ∧
    ∃ w, bound.schemaNumber = .number w ∧ reading n < reading w

/-- Binary64 takes the number to the bound, and the reading finds it above what is written for the
bound. -/
def FallsTo (reading : Reading) (n : Json.Number) (bound : Double) : Prop :=
  n.roundedUnits = bound.units ∧
    ∃ w, bound.schemaNumber = .number w ∧ reading w < reading n

/-- The number is taken to a bound of the node from outside. Only nodes of numbers have bounds. -/
inductive SlipsPast (reading : Reading) (n : Json.Number) : Node → Prop
  | minimum {integer : Bool} {bound : Double} {max : Option Double}
      (rises : n.RisesTo reading bound) : SlipsPast reading n (.number integer (some bound) max)
  | maximum {integer : Bool} {min : Option Double} {bound : Double}
      (falls : n.FallsTo reading bound) : SlipsPast reading n (.number integer min (some bound))

/-- What it takes to slip past a bound of a node of numbers. -/
theorem slipsPast_number_iff {reading : Reading} {n : Json.Number} {integer : Bool}
    {min max : Option Double} :
    n.SlipsPast reading (.number integer min max) ↔
      (∃ b, min = some b ∧ n.RisesTo reading b) ∨ ∃ b, max = some b ∧ n.FallsTo reading b := by
  constructor
  · rintro (rises | falls)
    · exact .inl ⟨_, rfl, rises⟩
    · exact .inr ⟨_, rfl, falls⟩
  · rintro (⟨b, rfl, rises⟩ | ⟨b, rfl, falls⟩)
    · exact .minimum rises
    · exact .maximum falls

/-- The nearest binary64 number has the value that the exact value is rounded to. -/
theorem roundedUnits_eq (n : Json.Number) : n.roundedUnits = Double.roundUnits n.exactUnits := by
  cases n with
  | int a => exact Double.units_ofInt_eq a.natAbs_le
  | real x => exact (Double.roundUnits_units x).symm

end Json.Number

/-! ### Finer readings -/

namespace JsonSchema

/-- The reading is at least as fine as that of binary64: the same numbers are integers, and numbers
in order are in order when they are rounded. -/
structure Finer (reading : Reading) : Prop where
  integral : ∀ n, (Double.one : Int) ∣ reading n ↔ (Double.one : Int) ∣ n.roundedUnits
  mono : ∀ {a b : Json.Number}, reading a ≤ reading b → a.roundedUnits ≤ b.roundedUnits

/-- The reading of binary64 is as fine as itself. -/
theorem finer_roundedUnits : Finer Json.Number.roundedUnits where
  integral _ := Iff.rfl
  mono h := h

/-- The exact reading is finer. -/
theorem finer_exactUnits : Finer Json.Number.exactUnits where
  integral n := by
    cases n with
    | int a =>
      -- Both sides hold: conversion takes integers to integers.
      refine iff_of_true (Int.dvd_mul_left _ _) ?_
      exact Double.isIntegral_iff.1 (Double.isIntegral_ofInt a.natAbs_le)
    | real x => exact Iff.rfl
  mono h := by
    rw [Json.Number.roundedUnits_eq, Json.Number.roundedUnits_eq]
    exact Double.roundUnits_mono h

section Finer

variable {reading : Reading} {n w : Json.Number} {bound : Double}

/-- A number is at least what is written for a bound if binary64 says so, and the number does not
rise to the bound. -/
theorem Finer.minimum_iff (finer : Finer reading) (written : bound.schemaNumber = .number w) :
    reading w ≤ reading n ↔ bound.units ≤ n.roundedUnits ∧ ¬ n.RisesTo reading bound := by
  have value := Double.roundedUnits_of_written written
  constructor
  · intro within
    refine ⟨value ▸ finer.mono within, ?_⟩
    rintro ⟨-, w', written', less⟩
    cases written.symm.trans written'
    omega
  · rintro ⟨kept, rises⟩
    by_contra below
    -- Rounding keeps the order, so nothing is left for the number but the bound.
    have rounded : n.roundedUnits ≤ bound.units := value ▸ finer.mono (by omega)
    exact rises ⟨by omega, w, written, by omega⟩

/-- A number is at most what is written for a bound if binary64 says so, and the number does not
fall to the bound. -/
theorem Finer.maximum_iff (finer : Finer reading) (written : bound.schemaNumber = .number w) :
    reading n ≤ reading w ↔ n.roundedUnits ≤ bound.units ∧ ¬ n.FallsTo reading bound := by
  have value := Double.roundedUnits_of_written written
  constructor
  · intro within
    refine ⟨value ▸ finer.mono within, ?_⟩
    rintro ⟨-, w', written', more⟩
    cases written.symm.trans written'
    omega
  · rintro ⟨kept, falls⟩
    by_contra above
    have rounded : bound.units ≤ n.roundedUnits := value ▸ finer.mono (by omega)
    exact falls ⟨by omega, w, written, by omega⟩

end Finer

/-- Read as binary64 numbers, a number that is taken to a bound is at the bound. -/
theorem not_slipsPast_roundedUnits (n : Json.Number) (node : Node) :
    ¬ n.SlipsPast Json.Number.roundedUnits node := by
  rintro (⟨rounded, w, written, less⟩ | ⟨rounded, w, written, more⟩)
  all_goals
    have value := Double.roundedUnits_of_written written
    omega

/-- A number that binary64 represents, other than the one whose bound is written as its predecessor.
-/
def IsExact (n : Json.Number) : Prop :=
  n.exactUnits = n.roundedUnits ∧ n.exactUnits ≠ 0x8000000000000000 * Double.one

/-- A number that needs no rounding does not slip. -/
theorem not_slipsPast_of_isExact {n : Json.Number} (exact_ : IsExact n) (node : Node) :
    ¬ n.SlipsPast Json.Number.exactUnits node := by
  obtain ⟨value, other⟩ := exact_
  rintro (⟨rounded, w, written, less⟩ | ⟨rounded, w, written, more⟩)
  all_goals
    -- The bound is the number itself, and it is written as it is.
    rcases Double.exactUnits_of_written written with same | ⟨last, -⟩
    · omega
    · exact other (by rw [value, rounded, last])

end JsonSchema

/-! ### Numbers in a value -/

namespace CompiledModel

/-- No number in a value slips past a bound of the node that it is checked against. -/
def NoneSlips (m : CompiledModel) (reading : Reading) (root : Ref) (value : Json) : Prop :=
  ∀ p ref n, m.walk? root value p = some (ref, .number n) → ¬ n.SlipsPast reading (m.node ref)

/-- The validator finds nothing in the value, and no number slipped past it. -/
def Passes (m : CompiledModel) (reading : Reading) (root : Ref) (value : Json) : Prop :=
  value.violations m root = [] ∧ m.NoneSlips reading root value

section NoneSlips

variable {m : CompiledModel} {reading : Reading} {root ref element key : Ref}
  {value part : Json} {items : List Json} {fields : List (String × Json)} {segment : String}

/-- Nothing slips in a value if the value itself does not, if it is a number, and nothing slips in
the parts that its check goes on to. -/
theorem noneSlips_iff : m.NoneSlips reading root value ↔
    (∀ n, value = .number n → ¬ n.SlipsPast reading (m.node root)) ∧
      ∀ segment ref part, m.part? root value segment = some (ref, part) →
        m.NoneSlips reading ref part := by
  constructor
  · intro none
    refine ⟨fun n same => none [] root n (by rw [same]; rfl), ?_⟩
    intro segment ref part step p ref' n walk
    exact none (segment :: p) ref' n ((walk?_cons step p).trans walk)
  · rintro ⟨own, parts⟩ p ref n walk
    -- A path is empty, or its first segment leads to a part.
    cases p with
    | nil =>
      cases walk
      exact own n rfl
    | cons segment p =>
      rw [walk?, List.foldlM_cons] at walk
      obtain ⟨⟨next, inner⟩, step, rest⟩ := Option.bind_eq_some_iff.1 walk
      exact parts segment next inner step p ref n rest

/-- Read as binary64 numbers, no number slips. -/
theorem noneSlips_roundedUnits (m : CompiledModel) (root : Ref) (value : Json) :
    m.NoneSlips Json.Number.roundedUnits root value :=
  fun _ ref n _ => JsonSchema.not_slipsPast_roundedUnits n (m.node ref)

/-- A value without parts can only slip itself. -/
theorem noneSlips_iff_of_no_parts (none : ∀ segment, m.part? root value segment = none) :
    m.NoneSlips reading root value ↔
      ∀ n, value = .number n → ¬ n.SlipsPast reading (m.node root) := by
  rw [noneSlips_iff]
  refine and_iff_left fun segment ref part step => ?_
  rw [none segment] at step
  cases step

/-- Where a node has neither bounds nor parts there is nothing to slip past. -/
theorem noneSlips_of_node (bounds : ∀ integer min max, m.node root ≠ .number integer min max)
    (none : ∀ segment, m.part? root value segment = none) : m.NoneSlips reading root value := by
  refine (noneSlips_iff_of_no_parts none).2 fun n _ slips => ?_
  generalize hnode : m.node root = node at slips
  cases slips with
  | minimum | maximum => exact bounds _ _ _ hnode

/-- A number has no parts, so only the node itself can be slipped past. -/
theorem noneSlips_number_iff {n : Json.Number} :
    m.NoneSlips reading root (.number n) ↔ ¬ n.SlipsPast reading (m.node root) := by
  have alone (segment : String) : m.part? root (.number n) segment = none := by
    cases hnode : m.node root <;> simp [part?, hnode]
  rw [noneSlips_iff_of_no_parts alone]
  constructor
  · exact fun own => own n rfl
  · rintro own _ ⟨⟩
    exact own

/-- A text has no number to slip past anything. -/
theorem noneSlips_string (s : String) : m.NoneSlips reading root (.string s) := by
  have alone (segment : String) : m.part? root (.string s) segment = none := by
    cases hnode : m.node root <;> simp [part?, hnode]
  rw [noneSlips_iff_of_no_parts alone]
  rintro _ ⟨⟩

/-- In an array, numbers are in the items. -/
theorem noneSlips_array_iff {length : Length} (hnode : m.node root = .array element length) :
    m.NoneSlips reading root (.array items) ↔ ∀ item ∈ items, m.NoneSlips reading element item := by
  rw [noneSlips_iff]
  constructor
  · rintro ⟨-, parts⟩ item mem
    obtain ⟨i, found⟩ := List.getElem?_of_mem mem
    exact parts _ _ _ (part?_item hnode found)
  · intro each
    refine ⟨fun n same => (nomatch same), fun segment ref part step => ?_⟩
    obtain ⟨rfl, mem⟩ := of_part?_array hnode step
    exact each part mem

/-- In an object under members, numbers are in the members that are set. -/
theorem noneSlips_object_iff {members : OrderedMap MemberRef}
    (hnode : m.node root = .object members) :
    m.NoneSlips reading root (.object fields) ↔
      ∀ e ∈ members.entries, ∀ value, fields.lookup e.1 = some value →
        value.isNull = false → m.NoneSlips reading e.2.node value := by
  rw [noneSlips_iff]
  constructor
  · rintro ⟨-, parts⟩ e mem value found set
    exact parts _ _ _ (part?_member hnode (OrderedMap.get?_eq_some_iff.2 mem) found set)
  · intro each
    refine ⟨fun n same => (nomatch same), fun segment ref part step => ?_⟩
    obtain ⟨member, declared, found, set, rfl⟩ := of_part?_object hnode step
    exact each _ (OrderedMap.get?_eq_some_iff.1 declared) part found set

/-- In a dictionary, numbers are in the values. Keys are texts. -/
theorem noneSlips_dictionary_iff (distinct : (fields.map Prod.fst).Nodup)
    (hnode : m.node root = .dictionary key element) :
    m.NoneSlips reading root (.object fields) ↔
      ∀ f ∈ fields, m.NoneSlips reading element f.2 := by
  rw [noneSlips_iff]
  constructor
  · rintro ⟨-, parts⟩ f mem
    exact parts _ _ _ (part?_entry hnode (Entries.lookup_of_mem distinct mem))
  · intro each
    refine ⟨fun n same => (nomatch same), fun segment ref part step => ?_⟩
    obtain ⟨rfl, found⟩ := of_part?_dictionary hnode step
    exact each _ (Entries.mem_of_lookup found)

/-- In a union, numbers are in the one field that is set, if it names an alternative. -/
theorem noneSlips_union_iff {alternatives : OrderedMap Ref}
    (distinct : (fields.map Prod.fst).Nodup) (hnode : m.node root = .union alternatives) :
    m.NoneSlips reading root (.object fields) ↔
      ∀ tag value ref, setFields fields = [(tag, value)] → alternatives.get? tag = some ref →
        m.NoneSlips reading ref value := by
  rw [noneSlips_iff]
  constructor
  · rintro ⟨-, parts⟩ tag value ref alone known
    have set : (tag, value) ∈ setFields fields := by
      rw [alone]
      exact List.mem_singleton_self _
    have found := Entries.lookup_of_mem distinct (List.mem_filter.1 set).1
    exact parts _ _ _ (part?_alternative hnode alone known found)
  · intro each
    refine ⟨fun n same => (nomatch same), fun segment ref part step => ?_⟩
    obtain ⟨known, alone⟩ := of_part?_union hnode step
    exact each segment part ref alone known

/-- A value whose numbers need no rounding lets none slip, whatever it is checked against. -/
theorem noneSlips_of_isExact (exact_ : value.Regular JsonSchema.IsExact) :
    m.NoneSlips Json.Number.exactUnits root value := by
  intro p ref n walk
  have inside := exact_.of_resolve? (resolve?_of_walk? walk)
  exact JsonSchema.not_slipsPast_of_isExact (Json.regular_number.1 inside) _

end NoneSlips

/-! ### Values that pass -/

section Passes

variable {m : CompiledModel} {reading : Reading} {root element key : Ref} {items : List Json}
  {fields : List (String × Json)}

/-- A value of another kind than the node expects does not pass. -/
theorem not_passes_of_not_takes {value : Json} (expects : (m.node root).expected?.isSome = true)
    (other : (m.node root).takes value = false) : ¬ m.Passes reading root value := by
  rintro ⟨clean, -⟩
  rw [violations_of_not_takes other, mismatch_eq_nil_iff] at clean
  rw [clean] at expects
  cases expects

/-- An array passes if its count is allowed and its items pass. -/
theorem passes_array_iff {length : Length} (hnode : m.node root = .array element length) :
    m.Passes reading root (.array items) ↔
      itemCountViolations length items.length = [] ∧
        ∀ item ∈ items, m.Passes reading element item := by
  rw [Passes, violations_array_eq_nil_iff hnode, noneSlips_array_iff hnode, and_assoc,
    ← forall₂_and]
  rfl

/-- An object passes if each member is there, where it has to be, and passes. -/
theorem passes_object_iff {members : OrderedMap MemberRef}
    (hnode : m.node root = .object members) :
    m.Passes reading root (.object fields) ↔
      ∀ e ∈ members.entries, MemberHolds (m.Passes reading) fields e.1 e.2 := by
  rw [Passes, violations_object_eq_nil_iff hnode, noneSlips_object_iff hnode, ← forall₂_and]
  refine forall₂_congr fun e _ => ?_
  -- A member that is absent or null has no numbers.
  rw [MemberHolds, MemberHolds]
  cases fields.lookup e.1 with
  | none => simp
  | some value => cases hnull : value.isNull <;> simp [hnull, Passes]

/-- The fields of an object pass as entries of a dictionary if their keys and their values do. -/
theorem passes_dictionary_iff (distinct : (fields.map Prod.fst).Nodup)
    (hnode : m.node root = .dictionary key element) :
    m.Passes reading root (.object fields) ↔
      ∀ f ∈ fields, m.Passes reading key (.string f.1) ∧ m.Passes reading element f.2 := by
  rw [Passes, violations_dictionary_eq_nil_iff hnode, noneSlips_dictionary_iff distinct hnode,
    ← forall₂_and]
  refine forall₂_congr fun f _ => ?_
  rw [Passes, Passes, and_iff_left (noneSlips_string f.1), and_assoc]

/-- An object passes as a union if one field of it is set, is an alternative, and passes. -/
theorem passes_union_iff {alternatives : OrderedMap Ref} (distinct : (fields.map Prod.fst).Nodup)
    (hnode : m.node root = .union alternatives) :
    m.Passes reading root (.object fields) ↔
      ∃ tag value ref, setFields fields = [(tag, value)] ∧ alternatives.get? tag = some ref ∧
        m.Passes reading ref value := by
  rw [Passes, violations_union_eq_nil_iff hnode, noneSlips_union_iff distinct hnode]
  constructor
  · rintro ⟨⟨tag, value, ref, alone, known, clean⟩, none⟩
    exact ⟨tag, value, ref, alone, known, clean, none tag value ref alone known⟩
  · rintro ⟨tag, value, ref, alone, known, clean, none⟩
    refine ⟨⟨tag, value, ref, alone, known, clean⟩, ?_⟩
    -- There is one field that is set, so it is this one.
    intro tag' value' ref' alone' known'
    cases alone.symm.trans alone'
    cases known.symm.trans known'
    exact none

end Passes

end CompiledModel

end ShapeSchema
