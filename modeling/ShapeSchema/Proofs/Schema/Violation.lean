import ShapeSchema.Proofs.OrderedMap
import ShapeSchema.Schema.Violation

/-!
# `ShapeSchema.Proofs.Schema.Violation`: when a value has no violation

What a node asks of a value, read off from the checks: for each kind of node and value, the list of
violations is empty exactly if the constraints hold and every part that the node looks at has none
in turn. The checks of parts are violations of parts (`itemChecks_eq`, `fieldChecks_eq`).
-/

set_option autoImplicit false

namespace ShapeSchema

open Violation (here collect when)

/-! ### Values without parts -/

/-- Nothing is found wrong exactly if no cause is there. -/
theorem collect_eq_nil_iff {causes : List (Option Violation.Cause)} :
    collect causes = [] ↔ ∀ cause ∈ causes, cause = none := by
  rw [collect, List.map_eq_nil_iff, List.filterMap_eq_nil_iff]
  rfl

/-- A cause is absent exactly if its condition fails. -/
@[simp] theorem when_eq_none_iff {condition : Bool} {cause : Violation.Cause} :
    when condition cause = none ↔ condition = false := by
  cases condition <;> simp [when]

/-- A bound that is absent is kept. -/
@[simp] theorem bind_when_eq_none_iff {α : Type} {bound : Option α} {condition : α → Bool}
    {cause : α → Violation.Cause} :
    (bound.bind fun b => when (condition b) (cause b)) = none ↔
      ∀ b, bound = some b → condition b = false := by
  cases bound <;> simp

/-- A value of the wrong kind has a violation, unless the node takes all kinds. -/
theorem mismatch_eq_nil_iff {node : Node} {value : Json} :
    node.mismatch value = [] ↔ node.expected? = none := by
  rw [Node.mismatch, collect_eq_nil_iff]
  simp

/-- A text has no violation exactly if it keeps the bounds of its length, matches the pattern, and
has the format. Only that of timestamps is checked. -/
theorem textViolations_eq_nil_iff {pattern : Option Regex} {length : Length}
    {format : Option Format} {s : String} :
    textViolations pattern length format s = [] ↔
      (∀ min, length.min = some min → min.toNat ≤ s.length) ∧
      (∀ max, length.max = some max → s.length ≤ max.toNat) ∧
      (∀ p, pattern = some p → p.isMatch s = true) ∧
      (format = some .dateTime → Text.isTimestamp s = true) := by
  rw [textViolations, collect_eq_nil_iff]
  cases format with
  | none => simp
  | some format => cases format <;> simp

/-- A number has no violation exactly if it is integral, where it has to be, and keeps both bounds.
-/
theorem numberViolations_eq_nil_iff {integer : Bool} {min max : Option Double} {n : Double} :
    numberViolations integer min max n = [] ↔
      (integer = true → n.isIntegral = true) ∧
      (∀ b, min = some b → b.units ≤ n.units) ∧
      (∀ b, max = some b → n.units ≤ b.units) := by
  rw [numberViolations, collect_eq_nil_iff]
  simp [Double.lt]

/-- A number of items has no violation exactly if it keeps both bounds. -/
theorem itemCountViolations_eq_nil_iff {length : Length} {count : Nat} :
    itemCountViolations length count = [] ↔
      (∀ min, length.min = some min → min.toNat ≤ count) ∧
      (∀ max, length.max = some max → count ≤ max.toNat) := by
  rw [itemCountViolations, collect_eq_nil_iff]
  simp

/-! ### Parts -/

/-- The check of an item gives its violations. -/
theorem itemChecks_eq (m : CompiledModel) (items : List Json) :
    itemChecks m items = items.map (Json.violations m) := by
  induction items with
  | nil => rfl
  | cons item items ih => rw [itemChecks, ih, List.map_cons]

/-- The check of a field gives the violations of its value. -/
theorem fieldChecks_eq (m : CompiledModel) (fields : List (String × Json)) :
    fieldChecks m fields = fields.map fun f => (f.1, f.2, f.2.violations m) := by
  induction fields with
  | nil => rfl
  | cons f fields ih => rw [fieldChecks, ih, List.map_cons]

/-- Items have no violation exactly if none of them has one. -/
theorem checkItems_eq_nil_iff {element : Ref} {checks : List Check} (position : Nat) :
    checkItems element position checks = [] ↔ ∀ check ∈ checks, check element = [] := by
  induction checks generalizing position with
  | nil => simp [checkItems]
  | cons check checks ih => simp [checkItems, ih]

/-- A member is set and its value holds under the node of the member, or it is not required. -/
def MemberHolds (holds : Ref → Json → Prop) (fields : List (String × Json)) (name : String)
    (member : MemberRef) : Prop :=
  match fields.lookup name with
  | some value => if value.isNull then member.required = false else holds member.node value
  | none => member.required = false

/-- The check under a key is that of the value there. -/
theorem lookup_fieldChecks (m : CompiledModel) (fields : List (String × Json)) (key : String) :
    List.lookup key (fieldChecks m fields) =
      (fields.lookup key).map fun value => (value, value.violations m) := by
  induction fields with
  | nil => rfl
  | cons f fields ih =>
    rw [fieldChecks, Entries.lookup_cons, Entries.lookup_cons, ih]
    split <;> rfl

/-- Members have no violation exactly if each of them holds. -/
theorem checkMembers_eq_nil_iff {m : CompiledModel} {fields : List (String × Json)}
    {members : List (String × MemberRef)} :
    checkMembers (fieldChecks m fields) members = [] ↔
      ∀ e ∈ members, MemberHolds (fun ref value => value.violations m ref = []) fields e.1 e.2 := by
  induction members with
  | nil => simp [checkMembers]
  | cons e members ih =>
    obtain ⟨name, member⟩ := e
    rw [checkMembers, List.append_eq_nil_iff, List.map_eq_nil_iff, ih, List.forall_mem_cons,
      MemberHolds, lookup_fieldChecks]
    -- A null counts as an absent member, so the value is looked at before the member's node is.
    cases fields.lookup name with
    | none => cases member.required <;> simp
    | some value => cases hnull : value.isNull <;> cases member.required <;> simp [hnull]

/-- Entries have no violation exactly if no key and no value has one. -/
theorem checkEntries_eq_nil_iff {m : CompiledModel} {key value : Ref}
    {fields : List (String × Json)} :
    checkEntries m key value (fieldChecks m fields) = [] ↔
      ∀ f ∈ fields, (Json.string f.1).violations m key = [] ∧ f.2.violations m value = [] := by
  induction fields with
  | nil => simp [checkEntries, fieldChecks]
  | cons f fields ih =>
    obtain ⟨k, v⟩ := f
    rw [fieldChecks, checkEntries, List.append_eq_nil_iff, List.map_eq_nil_iff,
      List.append_eq_nil_iff, ih, List.forall_mem_cons]
    rfl

/-- The fields of an object that are set. -/
def setFields (fields : List (String × Json)) : List (String × Json) :=
  fields.filter fun f => !f.2.isNull

/-- The checks of the fields that are set are those of fields with other values than null. -/
theorem filter_fieldChecks (m : CompiledModel) (fields : List (String × Json)) :
    ((fieldChecks m fields).filter fun f => !f.2.1.isNull) = fieldChecks m (setFields fields) := by
  rw [fieldChecks_eq, fieldChecks_eq, List.filter_map, setFields]
  rfl

/-- A union has no violation exactly if one field is set, is an alternative, and has none itself. -/
theorem checkTagged_eq_nil_iff {m : CompiledModel} {fields : List (String × Json)}
    {alternatives : OrderedMap Ref} :
    checkTagged (fieldChecks m fields) alternatives = [] ↔
      ∃ tag value ref, setFields fields = [(tag, value)] ∧ alternatives.get? tag = some ref ∧
        value.violations m ref = [] := by
  rw [checkTagged, filter_fieldChecks]
  cases setFields fields with
  | nil => simp [fieldChecks]
  | cons f rest =>
    obtain ⟨tag, value⟩ := f
    cases rest with
    | cons => simp [fieldChecks]
    | nil =>
      -- Exactly one member is there. It has to be an alternative, and its value clean.
      dsimp only [fieldChecks]
      cases known : alternatives.get? tag with
      | none => simp [known]
      | some ref =>
        simp only [List.map_eq_nil_iff]
        constructor
        · intro clean
          exact ⟨tag, value, ref, rfl, known, clean⟩
        · rintro ⟨tag', value', ref', same, known', clean⟩
          cases same
          rw [known] at known'
          cases known'
          exact clean

/-! ### The violations of a value -/

/-- The kind of value is the one that the node has constraints for. -/
def Node.takes : Node → Json → Bool
  | .boolean, .bool _ => true
  | .string _ _ _, .string _ => true
  | .enumeration _, .string _ => true
  | .number _ _ _, .number _ => true
  | .array _ _, .array _ => true
  | .object _, .object _ => true
  | .dictionary _ _, .object _ => true
  | .union _, .object _ => true
  | _, _ => false

section Violations

variable {m : CompiledModel} {ref : Ref}

/-- A value of any other kind has at most the one violation that says so. -/
theorem violations_of_not_takes {value : Json} (other : (m.node ref).takes value = false) :
    value.violations m ref = (m.node ref).mismatch value := by
  cases value with
  | string s =>
    -- Texts have a check of their own, which the keys of dictionaries go through as well.
    show (m.node ref).checkText s = _
    cases hnode : m.node ref with
    | string | enumeration =>
      rw [hnode] at other
      cases other
    | _ => rfl
  | null => rfl
  | bool | number | array | object =>
    rw [Json.violations]
    dsimp only
    generalize m.node ref = node at other ⊢
    cases node with
    | boolean | number | array | object | dictionary | union =>
      first
        | rfl
        | cases other
    | _ => rfl

/-- An array has no violation exactly if it keeps the bounds of its length and none of its items has
one. -/
theorem violations_array_eq_nil_iff {element : Ref} {length : Length} {items : List Json}
    (hnode : m.node ref = .array element length) :
    (Json.array items).violations m ref = [] ↔
      itemCountViolations length items.length = [] ∧
        ∀ item ∈ items, item.violations m element = [] := by
  simp [Json.violations, hnode, itemChecks_eq, checkItems_eq_nil_iff]

/-- An object has no violation exactly if each member of the node holds in it. Other fields are not
looked at. -/
theorem violations_object_eq_nil_iff {members : OrderedMap MemberRef}
    {fields : List (String × Json)} (hnode : m.node ref = .object members) :
    (Json.object fields).violations m ref = [] ↔
      ∀ e ∈ members.entries,
        MemberHolds (fun ref value => value.violations m ref = []) fields e.1 e.2 := by
  rw [Json.violations]
  simp only [hnode]
  exact checkMembers_eq_nil_iff

/-- A dictionary has no violation exactly if none of its keys and values has one. -/
theorem violations_dictionary_eq_nil_iff {key value : Ref} {fields : List (String × Json)}
    (hnode : m.node ref = .dictionary key value) :
    (Json.object fields).violations m ref = [] ↔
      ∀ f ∈ fields, (Json.string f.1).violations m key = [] ∧ f.2.violations m value = [] := by
  rw [Json.violations]
  simp only [hnode]
  exact checkEntries_eq_nil_iff

/-- An object under a union has no violation exactly if it sets one alternative, and that without
one. -/
theorem violations_union_eq_nil_iff {alternatives : OrderedMap Ref} {fields : List (String × Json)}
    (hnode : m.node ref = .union alternatives) :
    (Json.object fields).violations m ref = [] ↔
      ∃ tag value inner, setFields fields = [(tag, value)] ∧ alternatives.get? tag = some inner ∧
        value.violations m inner = [] := by
  rw [Json.violations]
  simp only [hnode]
  exact checkTagged_eq_nil_iff

end Violations

end ShapeSchema
