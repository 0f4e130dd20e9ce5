import ShapeSchema.Proofs.JsonSchema.Aggregate
import ShapeSchema.Proofs.JsonSchema.Reference
import ShapeSchema.Proofs.Schema.Model

/-!
# `ShapeSchema.Proofs.JsonSchema.Equivalence`: validator and emitted schema agree

The schema of a node accepts a pruned value exactly if the validator finds no violation in the value
and no number of the value slips past a bound (`check_schemaFields_iff`). Both follow the value
down, the validator along references into the arena, the schema along references into the document,
so the induction is on the value and cycles need no thought of their own.

`violations_eq_nil_iff_accepts` states it for the models of sessions, for two ways of reading
numbers. A validator compares numbers after rounding to binary64, so it agrees with a reader of the
schema that does so too. One that compares numbers exactly rejects the values with a number that
rounding takes to a bound from outside, and the validator accepts them (`exact_reading_differs`).
-/

set_option autoImplicit false

namespace ShapeSchema

open JsonSchema

namespace CompiledModel

variable {reading : Reading} {m : CompiledModel} {root : Ref}

/-- No value is of size zero, so a check of one takes at least a step. -/
theorem sizeOf_pos (value : Json) : 0 < sizeOf value := by
  cases value <;> simp

/-- Where a node is referred to, one step leads to its schema. -/
theorem check_childSchema {ref : Ref} (chain : Relation.TransGen m.Leads root ref) (steps : Nat)
    (value : Json) :
    check reading (m.standalone root) (steps + 1) (m.childSchema ref) value =
      check reading (m.standalone root) steps (.object (m.schemaFields ref)) value := by
  obtain ⟨id, defined⟩ := Option.isSome_iff_exists.1 (definedShape?_of_transGen chain)
  have named : m.shapeId? ref = some id := by
    rw [definedShape?] at defined
    split at defined
    · exact defined
    · cases defined
  rw [childSchema, defined]
  dsimp only
  rw [check_ref, resolve?_standalone chain named, Option.any_some]

/-- A node without references is written out where it is used. -/
theorem check_leafFields_iff (finer : Finer reading) (wellFormed : m.WellFormed) {document : Json}
    {ref : Ref} (leaf : (m.node ref).isAggregate = false) (steps : Nat) (value : Json) :
    check reading document (steps + 1) (.object (m.node ref).leafFields)
        (value.pruned m ref) = true ↔
      m.Passes reading ref value := by
  rw [pruned_of_leaf leaf]
  exact all_leafFields_iff finer leaf (wellFormed.compiled ref) value

/-- The verdict of a node's schema on a pruned value is that the value passes, as long as enough
steps are allowed: three for each level of the value, which is what a reference, a node and an
alternative take. The induction is on the size of the value, since every way around a cycle of
references goes down a part of the value. -/
theorem check_schemaFields_iff (finer : Finer reading) (wellFormed : m.WellFormed) {ref : Ref}
    (met : Relation.ReflTransGen m.Leads root ref) (value : Json)
    (regular : value.Regular fun _ => True) (steps : Nat) (enough : 3 * sizeOf value ≤ steps + 1) :
    check reading (m.standalone root) steps (.object (m.schemaFields ref))
        (value.pruned m ref) = true ↔
      m.Passes reading ref value := by
  have positive := sizeOf_pos value
  obtain ⟨steps, rfl⟩ : ∃ rest, steps = rest + 2 := ⟨steps - 2, by omega⟩
  -- Parts of the value are smaller, and need that much fewer steps.
  have parts (rest : Nat) (left : steps ≤ rest) :
      PartsAgree m reading (check reading (m.standalone root) rest) (m.node ref) value := by
    intro part child isPart mem
    have smaller := isPart.sizeOf_lt
    have positive := sizeOf_pos part
    obtain ⟨rest, rfl⟩ : ∃ rest', rest = rest' + 1 := ⟨rest - 1, by omega⟩
    have regularPart := isPart.regular regular
    -- A part meets a reference to a definition, or a leaf that is written out in place.
    rcases transGen_or_leaf wellFormed met mem with chain | leaf
    · rw [check_childSchema chain]
      exact check_schemaFields_iff finer wellFormed chain.to_reflTransGen part regularPart rest
        (by omega)
    · rw [childSchema_of_leaf leaf]
      exact check_leafFields_iff finer wellFormed leaf rest part
  show meetsAll reading _ (check reading _ (steps + 1)) (m.schemaFields ref) _ = true ↔ _
  cases aggregate : (m.node ref).isAggregate with
  | false =>
    rw [schemaFields_of_leaf aggregate]
    exact check_leafFields_iff finer wellFormed aggregate (steps + 1) value
  | true =>
    rw [meetsAll, schemaFields]
    -- A union has one schema more between itself and its parts, that of an alternative.
    have outer := parts (steps + 1) (by omega)
    have inner := parts steps (Nat.le_refl _)
    generalize hnode : m.node ref = node at aggregate outer inner
    cases node with
    | array element length => exact all_array_iff hnode outer
    | object members => exact all_object_iff hnode regular outer
    | dictionary key element => exact all_dictionary_iff hnode (fun _ => rfl) regular outer
    | union alternatives =>
      refine all_union_iff hnode (fun _ _ => rfl) ?_ regular inner
      intro v
      cases steps <;> rfl
    | _ => cases aggregate
termination_by sizeOf value

/-! ### The document of the root -/

/-- The definitions at the end of a document do not change what its keywords say. -/
theorem meets_append_defs {document : Json} {sub : Json → Json → Bool}
    (keywords : List (String × Json)) (definitions : Json) (entry : String × Json) (value : Json) :
    meets reading document sub (keywords ++ [("$defs", definitions)]) entry value =
      meets reading document sub keywords entry value := by
  -- Only `additionalProperties` reads the other keywords of its schema.
  have same : declares (keywords ++ [("$defs", definitions)]) = declares keywords := by
    funext name
    have other : List.lookup "properties" [("$defs", definitions)] = none := rfl
    rw [declares, declares, List.lookup_append, other, Option.or_none]
  unfold meets
  cases Keyword.ofName? entry.1 with
  | none => rfl
  | some keyword =>
    cases keyword with
    | additionalProperties =>
      dsimp only [holds]
      rw [same]
    | _ => rfl

/-- Definitions constrain nothing where they stand. -/
theorem check_append_defs (document : Json) (steps : Nat) (keywords : List (String × Json))
    (definitions : Json) (value : Json) :
    check reading document steps (.object (keywords ++ [("$defs", definitions)])) value =
      check reading document steps (.object keywords) value := by
  cases steps with
  | zero => rfl
  | succ steps =>
    rw [check, check, meetsAll, meetsAll, List.all_append]
    simp only [meets_append_defs]
    exact Bool.and_true _

/-- The document of a node says what the schema of the node says. -/
theorem check_standalone (document : Json) (steps : Nat) (value : Json) :
    check reading document steps (m.standalone root) value =
      check reading document steps (.object (m.schemaFields root)) value := by
  rw [standalone]
  cases (m.definitions root).isEmpty with
  | true =>
    rw [if_pos rfl, List.append_nil]
  | false =>
    rw [if_neg Bool.false_ne_true]
    exact check_append_defs document steps _ _ value

/-- The document of a node of a well-formed model accepts what is left of a value exactly if the
value passes. -/
theorem accepts_standalone_iff (finer : Finer reading) (wellFormed : m.WellFormed) (root : Ref)
    {value : Json} (regular : value.Regular fun _ => True) :
    Accepts reading (m.standalone root) (value.pruned m root) ↔ m.Passes reading root value := by
  have settled (steps : Nat) (enough : 3 * sizeOf value ≤ steps + 1) :
      check reading (m.standalone root) steps (m.standalone root) (value.pruned m root) = true ↔
        m.Passes reading root value := by
    rw [check_standalone]
    exact check_schemaFields_iff finer wellFormed .refl value regular steps enough
  constructor
  · rintro ⟨needed, accepted⟩
    exact (settled (needed + 3 * sizeOf value) (by omega)).1 (accepted _ (by omega))
  · intro passes
    exact ⟨3 * sizeOf value, fun steps enough => (settled steps (by omega)).2 passes⟩

end CompiledModel

namespace Compiler

/-- Validator and emitted schema accept the same values, up to nulls that stand for absent members,
and up to what rounding does to numbers.

Take any model that a session leaves, any node of it and any value with distinct keys. A reader of
the document of the node who reads binary64 numbers accepts the pruned value exactly if the
validator finds no violation in the value. A reader who compares numbers exactly accepts it exactly
if, besides, no number of the value slips past a bound of the node that the validator checks it
against. -/
theorem violations_eq_nil_iff_accepts (r : Registry) (ids : List String) (root : Ref)
    {value : Json} (regular : value.Regular fun _ => True) :
    let m := (session r ids).finish
    (m.violations root value = [] ↔
      Accepts Json.Number.roundedUnits (m.standalone root) (value.pruned m root)) ∧
    (m.violations root value = [] ∧ m.NoneSlips Json.Number.exactUnits root value ↔
      Accepts Json.Number.exactUnits (m.standalone root) (value.pruned m root)) := by
  intro m
  have wellFormed : m.WellFormed := session_wellFormed r ids
  constructor
  · rw [m.accepts_standalone_iff finer_roundedUnits wellFormed root regular]
    exact (and_iff_left (m.noneSlips_roundedUnits root value)).symm
  · exact (m.accepts_standalone_iff finer_exactUnits wellFormed root regular).symm

/-! ### A bound at the end of the exact integers -/

/-- The number `2 ^ 53`. -/
def limit : Double := Double.ofInt 0x20000000000000

/-- A registry with a bounded number, a union that has it as an alternative, and a structure. -/
def boundedRegistry : Registry where
  shapes := .ofList
    [("ns#N",
      { id := "ns#N"
        kind := .long
        members := .empty
        traits := [.range { max := some limit }] }),
     ("ns#Choice",
      { id := "ns#Choice"
        kind := .union
        members := .ofList
          [("number", ⟨"ns#N", true, []⟩), ("text", ⟨"smithy.api#String", true, []⟩)] }),
     ("ns#Entry",
      { id := "ns#Entry"
        kind := .record
        members := .ofList
          [("choice", ⟨"ns#Choice", true, []⟩), ("note", ⟨"ns#N", false, []⟩)] })]
  declared := 3

/-- A structure whose union has a null beside its number, and whose other member is null. -/
def entryValue : Json :=
  .object
    [("choice", .object [("text", .null), ("number", .number (.int ⟨5, by decide⟩))]),
     ("note", .null)]

/-- The entry has no violation, so its document accepts what is left without the nulls. -/
theorem entry_accepted :
    let m := (session boundedRegistry ["ns#Entry"]).finish
    entryValue.Regular (fun _ => True) ∧ m.violations ⟨0⟩ entryValue = [] ∧
      Accepts Json.Number.roundedUnits (m.standalone ⟨0⟩) (entryValue.pruned m ⟨0⟩) ∧
      Accepts Json.Number.exactUnits (m.standalone ⟨0⟩) (entryValue.pruned m ⟨0⟩) := by
  intro m
  have clean : m.violations ⟨0⟩ entryValue = [] := by
    rw [← List.isEmpty_iff]
    decide +kernel
  have exact : IsExact (.int ⟨5, by decide⟩) := ⟨by decide +kernel, by decide +kernel⟩
  have choice : (Json.object
      [("text", .null), ("number", .number (.int ⟨5, by decide⟩))]).Regular IsExact := by
    refine .object (by decide) ?_
    rw [List.forall_mem_cons, List.forall_mem_singleton]
    exact ⟨.null, .number exact⟩
  have regular : entryValue.Regular IsExact := by
    refine .object (by decide) ?_
    rw [List.forall_mem_cons, List.forall_mem_singleton]
    exact ⟨choice, .null⟩
  -- The value has no repeated name, and its number is read exactly.
  have distinct : entryValue.Regular fun _ => True := regular.imp fun _ _ => trivial
  obtain ⟨rounded, exactly⟩ :=
    violations_eq_nil_iff_accepts boundedRegistry ["ns#Entry"] ⟨0⟩ distinct
  exact ⟨distinct, clean, rounded.1 clean,
    exactly.1 ⟨clean, CompiledModel.noneSlips_of_isExact regular⟩⟩

/-- With exact numbers the document can reject what the validator accepts: `2 ^ 53 + 1` is above the
bound `2 ^ 53`, and rounding takes it to the bound. -/
theorem exact_reading_differs :
    let m := (session boundedRegistry ["ns#N"]).finish
    let value : Json := .number (.int ⟨0x20000000000001, by decide⟩)
    m.get? "ns#N" = some ⟨0⟩ ∧ value.Regular (fun _ => True) ∧
      ¬ (m.violations ⟨0⟩ value = [] ↔
        Accepts Json.Number.exactUnits (m.standalone ⟨0⟩) (value.pruned m ⟨0⟩)) := by
  intro m value
  have regular : value.Regular fun _ => True := .number trivial
  have clean : m.violations ⟨0⟩ value = [] := by
    rw [← List.isEmpty_iff]
    decide +kernel
  -- The exact value is beyond the bound, and the rounded one is the bound.
  have falls : (Json.Number.int ⟨0x20000000000001, by decide⟩).FallsTo Json.Number.exactUnits
      limit := by
    obtain ⟨w, written, -, same | ⟨last, -⟩⟩ := limit.schemaNumber_spec
    · refine ⟨by decide +kernel, w, written, ?_⟩
      rw [same]
      decide +kernel
    · have other : ¬ limit.units = 0x8000000000000000 * Double.one := by decide +kernel
      exact absurd last other
  have hnode : m.node ⟨0⟩ = .number true none (some limit) := by rfl
  refine ⟨by decide +kernel, regular, fun equivalence => ?_⟩
  have exactly := m.accepts_standalone_iff finer_exactUnits
    (session_wellFormed boundedRegistry ["ns#N"]) ⟨0⟩ regular
  obtain ⟨-, none⟩ := exactly.1 (equivalence.1 clean)
  exact CompiledModel.noneSlips_number_iff.1 none (hnode ▸ .maximum falls)

end Compiler

end ShapeSchema
