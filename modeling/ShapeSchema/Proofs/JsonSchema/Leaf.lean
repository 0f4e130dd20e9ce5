import ShapeSchema.Proofs.JsonSchema.Slips

/-!
# `ShapeSchema.Proofs.JsonSchema.Leaf`: nodes without references

For a node that leads to no other, its schema and its checks are compared constraint by constraint
(`all_leafFields_iff`). Counts are exact on both sides. Numbers are compared as the reading of the
schema has them, so a number that the schema accepts has no violation and does not slip past a
bound.
-/

set_option autoImplicit false

namespace ShapeSchema

open JsonSchema
open Violation (collect when)

/-- An optional keyword is met if it is absent or what it says holds. -/
theorem all_keyword {α : Type} {name : String} {argument : α → Json} {value : Option α}
    {p : String × Json → Bool} :
    (keyword name (value.map argument)).all p = true ↔
      ∀ a, value = some a → p (name, argument a) = true := by
  cases value <;> simp [keyword]

section Leaf

variable {reading : Reading} {document : Json} {sub : Json → Json → Bool}
  {keywords : List (String × Json)}

/-! ### Counts -/

/-- A count is compared with a word as it is. -/
theorem atLeast_iff {count : Nat} {bound : Json.Number} {w : UInt64}
    (written : Json.ofWord w = .number bound) : atLeast count bound = true ↔ w.toNat ≤ count := by
  cases written
  rw [atLeast, decide_eq_true_iff]
  exact Double.mul_one_le_mul_one

/-- So it is from above. -/
theorem atMost_iff {count : Nat} {bound : Json.Number} {w : UInt64}
    (written : Json.ofWord w = .number bound) : atMost count bound = true ↔ count ≤ w.toNat := by
  cases written
  rw [atMost, decide_eq_true_iff]
  exact Double.mul_one_le_mul_one

/-- The smallest length of a text is kept exactly. -/
theorem meets_minLength {w : UInt64} {s : String} :
    meets reading document sub keywords ("minLength", .ofWord w) (.string s) = true ↔
      w.toNat ≤ s.length :=
  atLeast_iff rfl

/-- So is the greatest one. -/
theorem meets_maxLength {w : UInt64} {s : String} :
    meets reading document sub keywords ("maxLength", .ofWord w) (.string s) = true ↔
      s.length ≤ w.toNat :=
  atMost_iff rfl

/-- The smallest number of items is kept exactly. -/
theorem meets_minItems {w : UInt64} {items : List Json} :
    meets reading document sub keywords ("minItems", .ofWord w) (.array items) = true ↔
      w.toNat ≤ items.length :=
  atLeast_iff rfl

/-- So is the greatest one. -/
theorem meets_maxItems {w : UInt64} {items : List Json} :
    meets reading document sub keywords ("maxItems", .ofWord w) (.array items) = true ↔
      items.length ≤ w.toNat :=
  atMost_iff rfl

/-! ### Texts and numbers -/

/-- A pattern is searched for as the node does, since its source compiles to it. -/
theorem meets_pattern {p : Regex} (compiled : Regex.compile p.source = .ok p) {s : String} :
    meets reading document sub keywords ("pattern", .string p.source) (.string s) =
      p.isMatch s := by
  show holds reading document sub keywords .pattern (.string p.source) (.string s) = _
  simp only [holds, compiled]

/-- A written minimum is met if binary64 keeps it, and the number does not rise to it. -/
theorem meets_minimum (finer : Finer reading) {n : Json.Number} {bound : Double} :
    meets reading document sub keywords ("minimum", bound.schemaNumber) (.number n) = true ↔
      bound.units ≤ n.roundedUnits ∧ ¬ n.RisesTo reading bound := by
  obtain ⟨b, written, -⟩ := bound.schemaNumber_spec
  rw [← finer.minimum_iff written, written]
  exact decide_eq_true_iff

/-- A written maximum is met if binary64 keeps it, and the number does not fall to it. -/
theorem meets_maximum (finer : Finer reading) {n : Json.Number} {bound : Double} :
    meets reading document sub keywords ("maximum", bound.schemaNumber) (.number n) = true ↔
      n.roundedUnits ≤ bound.units ∧ ¬ n.FallsTo reading bound := by
  obtain ⟨b, written, -⟩ := bound.schemaNumber_spec
  rw [← finer.maximum_iff written, written]
  exact decide_eq_true_iff

/-- A number has the type of a number node if the node takes all numbers or the value is integral.
-/
theorem hasType_number (finer : Finer reading) {n : Json.Number} (integer : Bool) :
    hasType reading (if integer then "integer" else "number") (.number n) = true ↔
      (integer = true → n.toDouble.isIntegral = true) := by
  rw [Double.isIntegral_iff]
  show _ ↔ (integer = true → (Double.one : Int) ∣ n.roundedUnits)
  cases integer with
  | false => simp [hasType]
  | true => simp [hasType, finer.integral]

/-! ### Nodes -/

variable {m : CompiledModel} {ref : Ref}

/-- Schema and checks agree that a value has the wrong kind, where what the schema sees of it has
the wrong type. -/
theorem all_iff_of_not_takes {node : Node} (hnode : m.node ref = node) {type : String}
    {rest : List (String × Json)} {value seen : Json} (expects : node.expected?.isSome = true)
    (other : node.takes value = false) (untyped : hasType reading type seen = false) :
    ((("type", Json.string type) :: rest).all fun entry =>
        meets reading document sub keywords entry seen) = true ↔
      m.Passes reading ref value := by
  subst hnode
  have failed : meets reading document sub keywords ("type", .string type) seen = false := untyped
  rw [List.all_cons, failed, Bool.false_and]
  exact iff_of_false Bool.false_ne_true (CompiledModel.not_passes_of_not_takes expects other)

/-- The schema of a text and its checks agree, constraint by constraint. -/
theorem all_string_iff {pattern : Option Regex} {length : Length} {format : Option Format}
    (hnode : m.node ref = .string pattern length format)
    (compiled : ∀ p, pattern = some p → Regex.compile p.source = .ok p) (value : Json) :
    ((Node.string pattern length format).leafFields.all fun entry =>
        meets reading document sub keywords entry value) = true ↔
      m.Passes reading ref value := by
  cases value with
  | string s =>
    rw [CompiledModel.Passes, and_iff_left (CompiledModel.noneSlips_string s)]
    show _ ↔ (m.node ref).checkText s = []
    rw [hnode]
    show _ ↔ textViolations pattern length format s = []
    have typed : meets reading document sub keywords ("type", .string "string")
        (.string s) = true := rfl
    have matched : (∀ p, pattern = some p →
        meets reading document sub keywords ("pattern", .string p.source) (.string s) = true) ↔
        ∀ p, pattern = some p → p.isMatch s = true :=
      forall₂_congr fun p hp => by rw [meets_pattern (compiled p hp)]
    -- What the format adds at the end, if anything.
    obtain ⟨last, fields, formatted⟩ : ∃ last,
        (Node.string pattern length format).leafFields =
          ("type", .string "string")
            :: keyword "pattern" (pattern.map fun p => .string p.source)
            ++ keyword "minLength" (length.min.map .ofWord)
            ++ keyword "maxLength" (length.max.map .ofWord) ++ last ∧
        ((last.all fun entry => meets reading document sub keywords entry (.string s)) = true ↔
          (format = some .dateTime → Text.isTimestamp s = true)) := by
      rcases format with _ | _ | _
      · exact ⟨[], rfl, by simp⟩
      · refine ⟨[("format", .string "date-time")], rfl, ?_⟩
        show (Text.isTimestamp s && true) = true ↔ _
        simp
      · refine ⟨[("contentEncoding", .string "base64")], rfl, ?_⟩
        show (true && true) = true ↔ _
        simp
    rw [textViolations_eq_nil_iff, fields, List.all_append, Bool.and_eq_true, formatted]
    simp only [List.cons_append, List.all_cons, List.all_append, Bool.and_eq_true, all_keyword,
      typed, matched, meets_minLength, meets_maxLength]
    tauto
  | null | bool | number | array | object =>
    exact all_iff_of_not_takes hnode rfl rfl rfl

/-- The bounds of a number node are the one place where the reading of numbers matters. -/
theorem all_number_iff (finer : Finer reading) {integer : Bool} {min max : Option Double}
    (hnode : m.node ref = .number integer min max) (value : Json) :
    ((Node.number integer min max).leafFields.all fun entry =>
        meets reading document sub keywords entry value) = true ↔
      m.Passes reading ref value := by
  cases value with
  | number n =>
    have typed : meets reading document sub keywords
        ("type", .string (if integer then "integer" else "number")) (.number n) = true ↔
        (integer = true → n.toDouble.isIntegral = true) := hasType_number finer integer
    have checks : (Json.number n).violations m ref =
        numberViolations integer min max n.toDouble := by
      rw [Json.violations]
      dsimp only
      rw [hnode]
    rw [CompiledModel.Passes, CompiledModel.noneSlips_number_iff, checks, hnode,
      numberViolations_eq_nil_iff, Json.Number.slipsPast_number_iff, Node.leafFields]
    simp only [List.cons_append, List.all_cons, List.all_append, Bool.and_eq_true, all_keyword,
      typed, meets_minimum finer, meets_maximum finer]
    -- A bound is met by the exact value if it is met by the rounded one and nothing slips past it.
    show _ ↔ (_ ∧ (∀ b, min = some b → b.units ≤ n.roundedUnits) ∧
      ∀ b, max = some b → n.roundedUnits ≤ b.units) ∧ _
    constructor
    · rintro ⟨integral, lower, upper⟩
      refine ⟨⟨integral, fun b h => (lower b h).1, fun b h => (upper b h).1⟩, ?_⟩
      rintro (⟨b, h, rises⟩ | ⟨b, h, falls⟩)
      · exact (lower b h).2 rises
      · exact (upper b h).2 falls
    · rintro ⟨⟨integral, lower, upper⟩, none⟩
      exact ⟨integral, fun b h => ⟨lower b h, fun rises => none (.inl ⟨b, h, rises⟩)⟩,
        fun b h => ⟨upper b h, fun falls => none (.inr ⟨b, h, falls⟩)⟩⟩
  | null | bool | string | array | object =>
    refine all_iff_of_not_takes hnode rfl rfl ?_
    cases integer <;> rfl

/-- The schema of an enumeration lists the texts that the check looks for. -/
theorem all_enumeration_iff {values : List String} (hnode : m.node ref = .enumeration values)
    (value : Json) :
    ((Node.enumeration values).leafFields.all fun entry =>
        meets reading document sub keywords entry value) = true ↔
      m.Passes reading ref value := by
  cases value with
  | string s =>
    rw [CompiledModel.Passes, and_iff_left (CompiledModel.noneSlips_string s)]
    show _ ↔ (m.node ref).checkText s = []
    rw [hnode]
    show (true && ((values.map Json.string).any (isText s) && true)) = true ↔
      collect [when (!values.contains s) (.notListed s values)] = []
    -- The schema lists texts, and the check looks for a string.
    have listed : (values.map Json.string).any (isText s) = values.contains s := by
      rw [List.any_map, List.contains_eq_any_beq]
      exact List.any_congr rfl fun w => BEq.comm
    rw [listed, collect_eq_nil_iff]
    simp
  | null | bool | number | array | object =>
    exact all_iff_of_not_takes hnode rfl rfl rfl

/-- A node that leads to no other agrees with its schema on every value. -/
theorem all_leafFields_iff (finer : Finer reading) (leaf : (m.node ref).isAggregate = false)
    (compiled : ∀ p length format, m.node ref = .string (some p) length format →
      Regex.compile p.source = .ok p) (value : Json) :
    ((m.node ref).leafFields.all fun entry =>
        meets reading document sub keywords entry value) = true ↔
      m.Passes reading ref value := by
  cases hnode : m.node ref with
  | string pattern length format =>
    refine all_string_iff hnode ?_ value
    rintro p rfl
    exact compiled p length format hnode
  | number integer min max => exact all_number_iff finer hnode value
  | enumeration values => exact all_enumeration_iff hnode value
  | boolean =>
    cases value with
    | bool b =>
      have unchecked : (Json.bool b).violations m ref = [] := by
        rw [Json.violations]
        dsimp only
        rw [hnode]
      have whole : m.Passes reading ref (.bool b) :=
        ⟨unchecked, CompiledModel.noneSlips_of_node (by simp [hnode])
          (by simp [CompiledModel.part?, hnode])⟩
      exact iff_of_true rfl whole
    | _ => exact all_iff_of_not_takes hnode rfl rfl rfl
  | forward | empty =>
    -- Neither the schema nor the check constrains anything.
    have unchecked : value.violations m ref = [] := by
      rw [violations_of_not_takes (by rw [hnode]; rfl), hnode]
      rfl
    have whole : m.Passes reading ref value :=
      ⟨unchecked, CompiledModel.noneSlips_of_node (by simp [hnode])
        (by simp [CompiledModel.part?, hnode])⟩
    exact iff_of_true rfl whole
  | array | object | dictionary | union =>
    rw [hnode] at leaf
    cases leaf

end Leaf

end ShapeSchema
