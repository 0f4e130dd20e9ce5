import ShapeSchema.Proofs.Compiler.Session
import ShapeSchema.Proofs.Json.Pointer
import ShapeSchema.Proofs.JsonSchema.Pruning
import ShapeSchema.Proofs.Schema.Violation

/-!
# `ShapeSchema.Proofs.Schema.Location`: where a violation is

The path of a violation is put together from the inside out while the check returns, and written as
a text at the end. This module says what the text means.

`CompiledModel.walk?` follows a pointer down a value as a check does, to a part and the node that
the part is checked against. `Node.Refuses` says what a node holds against a value itself, cause by
cause. Then each violation is one of three (`CompiledModel.Locates`): a part that a walk comes to is
refused by its node; or a key of a dictionary is refused, and the path leads to the entry under that
key; or a required member is missing from an object that a walk comes to. The induction on the value
is `locates_of_mem`, and `violation_located` reads it off the written path, whatever characters the
keys have.

A step goes to the field that a key names, so the keys of each object have to be distinct.
-/

set_option autoImplicit false

namespace ShapeSchema

open Violation (here collect when)

/-! ### What a node holds against a value -/

/-- The node has a constraint that the value does not meet, or expects another kind of value. -/
inductive Node.Refuses : Node → Json → Violation.Cause → Prop
  | wrongKind {node : Node} {value : Json} {expected : String}
      (kind : node.expected? = some expected) (other : node.takes value = false) :
      node.Refuses value (.wrongKind expected value)
  | tooShort {pattern : Option Regex} {length : Length} {format : Option Format} {s : String}
      {min : UInt64} (bound : length.min = some min) (less : s.length < min.toNat) :
      (Node.string pattern length format).Refuses (.string s) (.tooShort s.length min)
  | tooLong {pattern : Option Regex} {length : Length} {format : Option Format} {s : String}
      {max : UInt64} (bound : length.max = some max) (more : max.toNat < s.length) :
      (Node.string pattern length format).Refuses (.string s) (.tooLong s.length max)
  | noMatch {length : Length} {format : Option Format} {s : String} {p : Regex}
      (fails : p.isMatch s = false) :
      (Node.string (some p) length format).Refuses (.string s) (.noMatch p.source)
  | notTimestamp {pattern : Option Regex} {length : Length} {s : String}
      (fails : Text.isTimestamp s = false) :
      (Node.string pattern length (some .dateTime)).Refuses (.string s) (.notTimestamp s)
  | notInteger {min max : Option Double} {n : Json.Number}
      (fraction : n.toDouble.isIntegral = false) :
      (Node.number true min max).Refuses (.number n) (.notInteger n.toDouble)
  | belowMinimum {integer : Bool} {min : Double} {max : Option Double} {n : Json.Number}
      (less : n.toDouble.lt min = true) :
      (Node.number integer (some min) max).Refuses (.number n) (.belowMinimum n.toDouble min)
  | aboveMaximum {integer : Bool} {min : Option Double} {max : Double} {n : Json.Number}
      (more : max.lt n.toDouble = true) :
      (Node.number integer min (some max)).Refuses (.number n) (.aboveMaximum n.toDouble max)
  | tooFewItems {element : Ref} {length : Length} {items : List Json} {min : UInt64}
      (bound : length.min = some min) (less : items.length < min.toNat) :
      (Node.array element length).Refuses (.array items) (.tooFewItems items.length min)
  | tooManyItems {element : Ref} {length : Length} {items : List Json} {max : UInt64}
      (bound : length.max = some max) (more : max.toNat < items.length) :
      (Node.array element length).Refuses (.array items) (.tooManyItems items.length max)
  | notListed {values : List String} {s : String} (unlisted : s ∉ values) :
      (Node.enumeration values).Refuses (.string s) (.notListed s values)
  | memberCount {alternatives : OrderedMap Ref} {fields : List (String × Json)}
      (several : (setFields fields).length ≠ 1) :
      (Node.union alternatives).Refuses (.object fields) (.memberCount (setFields fields).length)
  | unknownAlternative {alternatives : OrderedMap Ref} {fields : List (String × Json)}
      {tag : String} {value : Json} (alone : setFields fields = [(tag, value)])
      (unknown : alternatives.get? tag = none) :
      (Node.union alternatives).Refuses (.object fields) (.unknownAlternative tag)

/-- What is found wrong with a value itself is found at the place of the value. -/
theorem mem_collect_iff {causes : List (Option Violation.Cause)} {v : Violation} :
    v ∈ collect causes ↔ ∃ cause, some cause ∈ causes ∧ v = here cause := by
  simp [collect, eq_comm]

/-- A cause is there exactly if its condition holds. -/
theorem when_eq_some_iff {condition : Bool} {cause cause' : Violation.Cause} :
    when condition cause = some cause' ↔ condition = true ∧ cause' = cause := by
  cases condition <;> simp [when, eq_comm]

section Own

variable {v : Violation} {node : Node}

/-- A value of the wrong kind is refused for its kind. -/
theorem mem_mismatch {value : Json} (other : node.takes value = false)
    (mem : v ∈ node.mismatch value) : ∃ cause, v = here cause ∧ node.Refuses value cause := by
  obtain ⟨cause, known, rfl⟩ := mem_collect_iff.1 mem
  obtain ⟨expected, kind, rfl⟩ := Option.map_eq_some_iff.1 (List.mem_singleton.1 known).symm
  exact ⟨_, rfl, .wrongKind kind other⟩

/-- What is found wrong with a text is a constraint that it does not meet. -/
theorem mem_textViolations {pattern : Option Regex} {length : Length} {format : Option Format}
    {s : String} (mem : v ∈ textViolations pattern length format s) :
    ∃ cause, v = here cause ∧ (Node.string pattern length format).Refuses (.string s) cause := by
  obtain ⟨cause, known, rfl⟩ := mem_collect_iff.1 mem
  refine ⟨cause, rfl, ?_⟩
  simp only [List.mem_cons, List.not_mem_nil, or_false] at known
  -- The four checks, in the order of the definition.
  rcases known with known | known | known | known
  · obtain ⟨min, bound, holds⟩ := Option.bind_eq_some_iff.1 known.symm
    obtain ⟨less, rfl⟩ := when_eq_some_iff.1 holds
    exact .tooShort bound (of_decide_eq_true less)
  · obtain ⟨max, bound, holds⟩ := Option.bind_eq_some_iff.1 known.symm
    obtain ⟨more, rfl⟩ := when_eq_some_iff.1 holds
    exact .tooLong bound (of_decide_eq_true more)
  · obtain ⟨p, rfl, holds⟩ := Option.bind_eq_some_iff.1 known.symm
    obtain ⟨fails, rfl⟩ := when_eq_some_iff.1 holds
    exact .noMatch (Bool.not_eq_true' _ ▸ fails)
  · obtain ⟨f, rfl, holds⟩ := Option.bind_eq_some_iff.1 known.symm
    cases f with
    | base64 => cases holds
    | dateTime =>
      obtain ⟨fails, rfl⟩ := when_eq_some_iff.1 holds
      exact .notTimestamp (Bool.not_eq_true' _ ▸ fails)

/-- What is found wrong with a number is a constraint that it does not meet. -/
theorem mem_numberViolations {integer : Bool} {min max : Option Double} {n : Json.Number}
    (mem : v ∈ numberViolations integer min max n.toDouble) :
    ∃ cause, v = here cause ∧ (Node.number integer min max).Refuses (.number n) cause := by
  obtain ⟨cause, known, rfl⟩ := mem_collect_iff.1 mem
  refine ⟨cause, rfl, ?_⟩
  simp only [List.mem_cons, List.not_mem_nil, or_false] at known
  rcases known with known | known | known
  · obtain ⟨fraction, rfl⟩ := when_eq_some_iff.1 known.symm
    obtain ⟨rfl, fraction⟩ := Bool.and_eq_true_iff.1 fraction
    exact .notInteger (Bool.not_eq_true' _ ▸ fraction)
  · obtain ⟨b, rfl, holds⟩ := Option.bind_eq_some_iff.1 known.symm
    obtain ⟨less, rfl⟩ := when_eq_some_iff.1 holds
    exact .belowMinimum less
  · obtain ⟨b, rfl, holds⟩ := Option.bind_eq_some_iff.1 known.symm
    obtain ⟨more, rfl⟩ := when_eq_some_iff.1 holds
    exact .aboveMaximum more

/-- What is found wrong with a number of items is a bound that it does not keep. -/
theorem mem_itemCountViolations {element : Ref} {length : Length} {items : List Json}
    (mem : v ∈ itemCountViolations length items.length) :
    ∃ cause, v = here cause ∧ (Node.array element length).Refuses (.array items) cause := by
  obtain ⟨cause, known, rfl⟩ := mem_collect_iff.1 mem
  refine ⟨cause, rfl, ?_⟩
  simp only [List.mem_cons, List.not_mem_nil, or_false] at known
  rcases known with known | known
  · obtain ⟨min, bound, holds⟩ := Option.bind_eq_some_iff.1 known.symm
    obtain ⟨less, rfl⟩ := when_eq_some_iff.1 holds
    exact .tooFewItems bound (of_decide_eq_true less)
  · obtain ⟨max, bound, holds⟩ := Option.bind_eq_some_iff.1 known.symm
    obtain ⟨more, rfl⟩ := when_eq_some_iff.1 holds
    exact .tooManyItems bound (of_decide_eq_true more)

/-- All violations of a text are its own: a value of a document and a key of a dictionary alike. -/
theorem mem_checkText {s : String} (mem : v ∈ node.checkText s) :
    ∃ cause, v = here cause ∧ node.Refuses (.string s) cause := by
  cases node with
  | string pattern length format => exact mem_textViolations mem
  | enumeration values =>
    obtain ⟨cause, known, rfl⟩ := mem_collect_iff.1 mem
    obtain ⟨unlisted, rfl⟩ := when_eq_some_iff.1 (List.mem_singleton.1 known).symm
    refine ⟨_, rfl, .notListed ?_⟩
    simpa using unlisted
  | _ => exact mem_mismatch rfl mem

end Own

/-! ### What a check finds in parts -/

section Parts

variable {m : CompiledModel} {v : Violation}

/-- A violation among items is one of an item, under its position. -/
theorem mem_checkItems {element : Ref} {items : List Json} {position : Nat}
    (mem : v ∈ checkItems element position (itemChecks m items)) :
    ∃ (i : Nat) (item : Json), items[i]? = some item ∧
      ∃ inner ∈ item.violations m element, v = inner.under (toString (position + i)) := by
  induction items generalizing position with
  | nil => cases mem
  | cons item items ih =>
    rw [itemChecks, checkItems] at mem
    rcases List.mem_append.1 mem with first | later
    · obtain ⟨inner, found, rfl⟩ := List.mem_map.1 first
      exact ⟨0, item, rfl, inner, found, rfl⟩
    · obtain ⟨i, other, at_, inner, found, rfl⟩ := ih later
      refine ⟨i + 1, other, at_, inner, found, ?_⟩
      rw [Nat.add_assoc, Nat.add_comm 1]

/-- A violation among members is one of a member's value, under its name, or a required member is
absent or null. -/
theorem mem_checkMembers {fields : List (String × Json)} {members : List (String × MemberRef)}
    (mem : v ∈ checkMembers (fieldChecks m fields) members) :
    ∃ name member, (name, member) ∈ members ∧
      ((∃ value, fields.lookup name = some value ∧ value.isNull = false ∧
          ∃ inner ∈ value.violations m member.node, v = inner.under name) ∨
        (fields.lookup name = none ∨ fields.lookup name = some .null) ∧
          member.required = true ∧ v = (here .missingMember).under name) := by
  induction members with
  | nil => cases mem
  | cons e members ih =>
    obtain ⟨name, member⟩ := e
    rw [checkMembers, lookup_fieldChecks] at mem
    -- A violation is of the first member or of a later one.
    rcases List.mem_append.1 mem with first | later
    · refine ⟨name, member, List.mem_cons_self, ?_⟩
      obtain ⟨inner, found, rfl⟩ := List.mem_map.1 first
      have missing (found : inner ∈ if member.required then [here .missingMember] else []) :
          member.required = true ∧ inner.under name = (here .missingMember).under name := by
        cases required : member.required with
        | false =>
          rw [required] at found
          cases found
        | true =>
          rw [required] at found
          exact ⟨rfl, congrArg _ (List.mem_singleton.1 found)⟩
      -- A null counts as absent.
      cases present : fields.lookup name with
      | none =>
        rw [present] at found
        exact .inr ⟨.inl rfl, missing found⟩
      | some value =>
        rw [present] at found
        dsimp only [Option.map_some] at found
        cases value with
        | null => exact .inr ⟨.inr rfl, missing found⟩
        | _ => exact .inl ⟨_, rfl, rfl, inner, found, rfl⟩
    · obtain ⟨name, member, mem, found⟩ := ih later
      exact ⟨name, member, List.mem_cons_of_mem _ mem, found⟩

/-- A violation among entries is one of a key or one of a value, both under the key. -/
theorem mem_checkEntries {key element : Ref} {fields : List (String × Json)}
    (mem : v ∈ checkEntries m key element (fieldChecks m fields)) :
    ∃ k value, (k, value) ∈ fields ∧
      ((∃ inner ∈ (m.node key).checkText k, v = inner.under k) ∨
        ∃ inner ∈ value.violations m element, v = inner.under k) := by
  induction fields with
  | nil => cases mem
  | cons f fields ih =>
    obtain ⟨k, value⟩ := f
    rw [fieldChecks, checkEntries] at mem
    rcases List.mem_append.1 mem with first | later
    · refine ⟨k, value, List.mem_cons_self, ?_⟩
      obtain ⟨inner, found, rfl⟩ := List.mem_map.1 first
      rcases List.mem_append.1 found with found | found
      · exact .inl ⟨inner, found, rfl⟩
      · exact .inr ⟨inner, found, rfl⟩
    · obtain ⟨k, value, mem, found⟩ := ih later
      exact ⟨k, value, List.mem_cons_of_mem _ mem, found⟩

/-- A violation of a union is one of the object itself, or one of the value of its only field that
is set. -/
theorem mem_checkTagged {alternatives : OrderedMap Ref} {fields : List (String × Json)}
    (mem : v ∈ checkTagged (fieldChecks m fields) alternatives) :
    (∃ cause, v = here cause ∧ (Node.union alternatives).Refuses (.object fields) cause) ∨
      ∃ tag value ref, setFields fields = [(tag, value)] ∧ alternatives.get? tag = some ref ∧
        ∃ inner ∈ value.violations m ref, v = inner.under tag := by
  -- With none or several members the union itself is refused.
  have own (several : (setFields fields).length ≠ 1)
      (only : v = here (.memberCount (fieldChecks m (setFields fields)).length)) :
      ∃ cause, v = here cause ∧ (Node.union alternatives).Refuses (.object fields) cause := by
    rw [fieldChecks_eq, List.length_map] at only
    exact ⟨_, only, .memberCount several⟩
  rw [checkTagged, filter_fieldChecks] at mem
  cases alone : setFields fields with
  | nil =>
    rw [alone] at mem own
    exact .inl (own (by simp) (List.mem_singleton.1 mem))
  | cons f rest =>
    obtain ⟨tag, value⟩ := f
    cases rest with
    | nil =>
      rw [alone] at mem
      dsimp only [fieldChecks] at mem
      cases known : alternatives.get? tag with
      | none =>
        rw [known] at mem
        exact .inl ⟨_, List.mem_singleton.1 mem, .unknownAlternative alone known⟩
      | some ref =>
        rw [known] at mem
        obtain ⟨inner, found, rfl⟩ := List.mem_map.1 mem
        exact .inr ⟨tag, value, ref, rfl, known, inner, found, rfl⟩
    | cons g rest =>
      rw [alone] at mem own
      exact .inl (own (by simp) (List.mem_singleton.1 mem))

end Parts

/-! ### The way to a part -/

namespace CompiledModel

/-- The part of a value that a key or a position leads to, if it is checked in its turn, and the
node that it is checked against. -/
def part? (m : CompiledModel) (ref : Ref) (value : Json) (segment : String) : Option (Ref × Json) :=
  match m.node ref, value with
  | .array element _, .array items =>
    (Json.Pointer.index? segment).bind fun i => items[i]?.map fun item => (element, item)
  | .object members, .object fields => do
    let member ← members.get? segment
    let value ← fields.lookup segment
    if value.isNull then none else some (member.node, value)
  | .dictionary _ element, .object fields =>
    (fields.lookup segment).map fun value => (element, value)
  | .union alternatives, .object fields => do
    let alternative ← alternatives.get? segment
    let value ← fields.lookup segment
    if value.isNull || (setFields fields).length != 1 then none else some (alternative, value)
  | _, _ => none

/-- The part of a value that a check comes to by a pointer, and the node that the part is checked
against. -/
def walk? (m : CompiledModel) (root : Ref) (value : Json) (p : Json.Pointer) :
    Option (Ref × Json) :=
  p.foldlM (fun at_ segment => m.part? at_.1 at_.2 segment) (root, value)

section Steps

variable {m : CompiledModel} {root ref element key : Ref} {value part item : Json}
  {fields : List (String × Json)} {segment name k tag : String} {p : Json.Pointer}

/-- A position leads to the item there, under the node of the elements. -/
theorem part?_item {length : Length} {items : List Json} {i : Nat}
    (node : m.node root = .array element length) (found : items[i]? = some item) :
    m.part? root (.array items) (toString i) = some (element, item) := by
  simp only [part?, node, Json.Pointer.index?_toString, Option.bind_some, found, Option.map_some]

/-- The name of a member leads to its value, unless that is null. -/
theorem part?_member {members : OrderedMap MemberRef} {member : MemberRef}
    (node : m.node root = .object members) (declared : members.get? name = some member)
    (found : fields.lookup name = some value) (set : value.isNull = false) :
    m.part? root (.object fields) name = some (member.node, value) := by
  simp [part?, node, declared, found, set]

/-- A key leads to the value under it, under the node of the values. -/
theorem part?_entry (node : m.node root = .dictionary key element)
    (found : fields.lookup k = some value) :
    m.part? root (.object fields) k = some (element, value) := by
  simp only [part?, node, found, Option.map_some]

/-- The tag of a union leads to the one value that is set. -/
theorem part?_alternative {alternatives : OrderedMap Ref}
    (node : m.node root = .union alternatives) (alone : setFields fields = [(tag, value)])
    (known : alternatives.get? tag = some ref) (found : fields.lookup tag = some value) :
    m.part? root (.object fields) tag = some (ref, value) := by
  have mem : (tag, value) ∈ setFields fields := by
    rw [alone]
    exact List.mem_singleton_self _
  have set : value.isNull = false := by simpa using (List.mem_filter.1 mem).2
  simp [part?, node, known, found, set, alone]

/-- A step into an array leads to an item. -/
theorem of_part?_array {length : Length} {items : List Json}
    (node : m.node root = .array element length)
    (step : m.part? root (.array items) segment = some (ref, part)) :
    ref = element ∧ part ∈ items := by
  simp only [part?, node, Option.bind_eq_some_iff, Option.map_eq_some_iff, Prod.mk.injEq] at step
  obtain ⟨i, -, item, found, rfl, rfl⟩ := step
  exact ⟨rfl, List.mem_of_getElem? found⟩

/-- A step into an object leads to a declared member that is set. -/
theorem of_part?_object {members : OrderedMap MemberRef} (node : m.node root = .object members)
    (step : m.part? root (.object fields) segment = some (ref, part)) :
    ∃ member, members.get? segment = some member ∧ fields.lookup segment = some part ∧
      part.isNull = false ∧ ref = member.node := by
  simp only [part?, node] at step
  obtain ⟨member, declared, step⟩ := Option.bind_eq_some_iff.1 step
  obtain ⟨value, found, step⟩ := Option.bind_eq_some_iff.1 step
  split at step
  · cases step
  · rename_i set
    cases step
    exact ⟨member, declared, found, Bool.eq_false_iff.2 set, rfl⟩

/-- A step into a dictionary leads to a value. -/
theorem of_part?_dictionary (node : m.node root = .dictionary key element)
    (step : m.part? root (.object fields) segment = some (ref, part)) :
    ref = element ∧ fields.lookup segment = some part := by
  simp only [part?, node, Option.map_eq_some_iff, Prod.mk.injEq] at step
  obtain ⟨value, found, rfl, rfl⟩ := step
  exact ⟨rfl, found⟩

/-- A step into a union leads to the one field that is set. -/
theorem of_part?_union {alternatives : OrderedMap Ref} (node : m.node root = .union alternatives)
    (step : m.part? root (.object fields) segment = some (ref, part)) :
    alternatives.get? segment = some ref ∧ setFields fields = [(segment, part)] := by
  simp only [part?, node] at step
  obtain ⟨alternative, known, step⟩ := Option.bind_eq_some_iff.1 step
  obtain ⟨value, found, step⟩ := Option.bind_eq_some_iff.1 step
  split at step
  · cases step
  · rename_i alone
    cases step
    simp only [Bool.or_eq_true, bne_iff_ne, not_or, Bool.not_eq_true, ne_eq, not_not] at alone
    obtain ⟨set, one⟩ := alone
    obtain ⟨field, only⟩ := List.length_eq_one_iff.1 one
    have mem : (segment, part) ∈ setFields fields :=
      List.mem_filter.2 ⟨Entries.mem_of_lookup found, by rw [set]; rfl⟩
    rw [only] at mem ⊢
    exact ⟨known, by rw [List.mem_singleton.1 mem]⟩

/-- A step into a part is a step of the pointer. -/
theorem step?_of_part? (step : m.part? root value segment = some (ref, part)) :
    Json.Pointer.step? value segment = some part := by
  unfold part? at step
  split at step
  · -- Only an array is stepped into by a number.
    obtain ⟨i, index, step⟩ := Option.bind_eq_some_iff.1 step
    obtain ⟨item, found, same⟩ := Option.map_eq_some_iff.1 step
    cases same
    rw [Json.Pointer.step?, index]
    exact found
  · obtain ⟨member, -, step⟩ := Option.bind_eq_some_iff.1 step
    obtain ⟨value, found, step⟩ := Option.bind_eq_some_iff.1 step
    -- A null member is not checked.
    split at step
    · cases step
    · cases step
      exact found
  · obtain ⟨value, found, same⟩ := Option.map_eq_some_iff.1 step
    cases same
    exact found
  · obtain ⟨alternative, -, step⟩ := Option.bind_eq_some_iff.1 step
    obtain ⟨value, found, step⟩ := Option.bind_eq_some_iff.1 step
    split at step
    · cases step
    · cases step
      exact found
  · cases step

/-- A walk takes its first step and goes on from there. -/
theorem walk?_cons (step : m.part? root value segment = some (ref, part)) (p : Json.Pointer) :
    m.walk? root value (segment :: p) = m.walk? ref part p := by
  rw [walk?, List.foldlM_cons, step]
  rfl

/-- The part that a check comes to is the part that the pointer leads to. -/
theorem resolve?_of_walk? (walk : m.walk? root value p = some (ref, part)) :
    p.resolve? value = some part := by
  induction p generalizing root value with
  | nil =>
    cases walk
    rfl
  | cons segment p ih =>
    rw [walk?, List.foldlM_cons] at walk
    obtain ⟨⟨next, inner⟩, step, rest⟩ := Option.bind_eq_some_iff.1 walk
    rw [Json.Pointer.resolve?, List.foldlM_cons, step?_of_part? step]
    exact ih rest

end Steps

end CompiledModel

/-- What a pointer leads to in a regular value is regular. -/
theorem Json.Regular.of_resolve? {number : Json.Number → Prop} {value part : Json}
    {p : Json.Pointer} (regular : value.Regular number) (found : p.resolve? value = some part) :
    part.Regular number := by
  induction p generalizing value with
  | nil =>
    cases found
    exact regular
  | cons segment p ih =>
    rw [Json.Pointer.resolve?, List.foldlM_cons] at found
    obtain ⟨inner, step, rest⟩ := Option.bind_eq_some_iff.1 found
    refine ih ?_ rest
    cases regular with
    | array values =>
      obtain ⟨i, -, step⟩ := Option.bind_eq_some_iff.1 step
      exact values inner (List.mem_of_getElem? step)
    | object _ values => exact values _ (Entries.mem_of_lookup step)
    | _ => cases step

namespace CompiledModel

/-! ### Violations of parts -/

/-- Where the check of a value finds a violation: at a part that it comes to, at a key of a
dictionary that it comes to, or at a member that an object lacks. -/
inductive Locates (m : CompiledModel) (root : Ref) (value : Json) : Violation → Prop
  | part {p : Json.Pointer} {ref : Ref} {part : Json} {cause : Violation.Cause}
      (walk : m.walk? root value p = some (ref, part)) (refused : (m.node ref).Refuses part cause) :
      Locates m root value ⟨p, cause⟩
  | key {p : Json.Pointer} {ref key element : Ref} {fields : List (String × Json)} {k : String}
      {entry : Json} {cause : Violation.Cause}
      (walk : m.walk? root value p = some (ref, .object fields))
      (node : m.node ref = .dictionary key element) (found : fields.lookup k = some entry)
      (refused : (m.node key).Refuses (.string k) cause) :
      Locates m root value ⟨p ++ [k], cause⟩
  | missing {p : Json.Pointer} {ref : Ref} {members : OrderedMap MemberRef} {member : MemberRef}
      {fields : List (String × Json)} {name : String}
      (walk : m.walk? root value p = some (ref, .object fields))
      (node : m.node ref = .object members) (declared : members.get? name = some member)
      (required : member.required = true)
      (absent : fields.lookup name = none ∨ fields.lookup name = some .null) :
      Locates m root value ⟨p ++ [name], .missingMember⟩

section Locates

variable {m : CompiledModel} {root : Ref} {v : Violation}

/-- What is located inside a part is located inside the whole, one step further out. -/
theorem Locates.under {ref : Ref} {value part : Json} {segment : String}
    (inside : m.Locates ref part v) (step : m.part? root value segment = some (ref, part)) :
    m.Locates root value (v.under segment) := by
  cases inside with
  | part walk refused => exact .part ((walk?_cons step _).trans walk) refused
  | key walk node found refused => exact .key ((walk?_cons step _).trans walk) node found refused
  | missing walk node declared required absent =>
    exact .missing ((walk?_cons step _).trans walk) node declared required absent

/-- What a value is refused for is located at the value. -/
theorem locates_own {value : Json}
    (refused : ∃ cause, v = here cause ∧ (m.node root).Refuses value cause) :
    m.Locates root value v := by
  obtain ⟨cause, rfl, refused⟩ := refused
  exact .part rfl refused

/-- A violation of an array is its own or lies in one of its items. -/
theorem locates_array {element : Ref} {length : Length} {items : List Json}
    (node : m.node root = .array element length)
    (inside : ∀ item ∈ items, ∀ v ∈ item.violations m element, m.Locates element item v)
    (mem : v ∈ (Json.array items).violations m root) : m.Locates root (.array items) v := by
  rw [Json.violations] at mem
  simp only [node] at mem
  rcases List.mem_append.1 mem with count | parts
  · apply locates_own
    rw [node]
    exact mem_itemCountViolations count
  · obtain ⟨i, item, found, inner, violated, rfl⟩ := mem_checkItems parts
    rw [Nat.zero_add]
    exact (inside item (List.mem_of_getElem? found) inner violated).under (part?_item node found)

section Fields

variable {fields : List (String × Json)}
  (inside : ∀ f ∈ fields, ∀ {ref : Ref}, ∀ v ∈ f.2.violations m ref, m.Locates ref f.2 v)

include inside

/-- A violation of an object is a missing member or lies in the value of one. -/
theorem locates_object {members : OrderedMap MemberRef} (node : m.node root = .object members)
    (mem : v ∈ (Json.object fields).violations m root) : m.Locates root (.object fields) v := by
  rw [Json.violations] at mem
  simp only [node] at mem
  obtain ⟨name, member, declared, found⟩ := mem_checkMembers mem
  have declared := OrderedMap.get?_eq_some_iff.2 declared
  rcases found with ⟨value, found, set, inner, violated, rfl⟩ | ⟨absent, required, rfl⟩
  · exact (inside _ (Entries.mem_of_lookup found) inner violated).under
      (part?_member node declared found set)
  · exact .missing (p := []) rfl node declared required absent

/-- The key and the value of an entry are both checked, and reported in one place. The keys have to
be distinct, or the place would be that of the first entry with the key. -/
theorem locates_dictionary {key element : Ref} (distinct : (fields.map Prod.fst).Nodup)
    (node : m.node root = .dictionary key element)
    (mem : v ∈ (Json.object fields).violations m root) : m.Locates root (.object fields) v := by
  rw [Json.violations] at mem
  simp only [node] at mem
  obtain ⟨k, value, entry, found⟩ := mem_checkEntries mem
  have held := Entries.lookup_of_mem distinct entry
  rcases found with ⟨inner, violated, rfl⟩ | ⟨inner, violated, rfl⟩
  · obtain ⟨cause, rfl, refused⟩ := mem_checkText violated
    exact .key (p := []) rfl node held refused
  · exact (inside _ entry inner violated).under (part?_entry node held)

/-- A violation of a union is its own or lies in the one value that is set. -/
theorem locates_union {alternatives : OrderedMap Ref} (distinct : (fields.map Prod.fst).Nodup)
    (node : m.node root = .union alternatives)
    (mem : v ∈ (Json.object fields).violations m root) : m.Locates root (.object fields) v := by
  rw [Json.violations] at mem
  simp only [node] at mem
  rcases mem_checkTagged mem with refused | ⟨tag, value, ref, alone, known, inner, violated, rfl⟩
  · apply locates_own
    rw [node]
    exact refused
  · have set : (tag, value) ∈ setFields fields := by
      rw [alone]
      exact List.mem_singleton_self _
    have entry := (List.mem_filter.1 set).1
    exact (inside _ entry inner violated).under
      (part?_alternative node alone known (Entries.lookup_of_mem distinct entry))

end Fields

/-- A value that the node does not take is refused as a whole. -/
theorem locates_mismatch {value : Json} (other : (m.node root).takes value = false)
    (mem : v ∈ value.violations m root) : m.Locates root value v := by
  rw [violations_of_not_takes other] at mem
  exact locates_own (mem_mismatch other mem)

/-- Every violation is located: by induction on the value, because a check steps into a part of it
whenever it steps into another node. -/
theorem locates_of_mem {value : Json} (regular : value.Regular fun _ => True) :
    ∀ {root : Ref}, ∀ v ∈ value.violations m root, m.Locates root value v := by
  -- Along the value: each form of value is met by few forms of nodes, and all others mismatch.
  induction regular with
  | null =>
    intro root v mem
    exact locates_mismatch (by cases m.node root <;> rfl) mem
  | bool b =>
    intro root v mem
    cases node : m.node root with
    | boolean => simp [Json.violations, node] at mem
    | _ => exact locates_mismatch (by rw [node]; rfl) mem
  | @number n _ =>
    intro root v mem
    cases node : m.node root with
    | number integer min max =>
      rw [Json.violations] at mem
      simp only [node] at mem
      apply locates_own
      rw [node]
      exact mem_numberViolations mem
    | _ => exact locates_mismatch (by rw [node]; rfl) mem
  | string s => exact fun v mem => locates_own (mem_checkText mem)
  | array _ ih =>
    intro root v mem
    cases node : m.node root with
    | array element length => exact locates_array node (fun item held => ih item held) mem
    | _ => exact locates_mismatch (by rw [node]; rfl) mem
  | object distinct _ ih =>
    intro root v mem
    cases node : m.node root with
    | object members => exact locates_object ih node mem
    | dictionary key element => exact locates_dictionary ih distinct node mem
    | union alternatives => exact locates_union ih distinct node mem
    | _ => exact locates_mismatch (by rw [node]; rfl) mem

end Locates

end CompiledModel

/-- Take a value whose objects have distinct keys, any characters in them, and any violation that
its check against a node finds. The path of the violation, as a text, is read as a pointer, and one
of three things holds.

The check comes by the pointer to a part, which is the part that the pointer leads to, and the node
there refuses the part. Or the pointer leads to an entry of a dictionary that the check comes to,
and the key of that entry is refused. Or the violation says that a required member is missing, and
the pointer is that of an object that the check comes to and then the name of a required member,
which is absent or null in the object. -/
theorem violation_located {m : CompiledModel} {root : Ref} {value : Json} {v : Violation}
    (regular : value.Regular fun _ => True) (mem : v ∈ m.violations root value) :
    ∃ p, Json.Pointer.parse? v.path.render = some p ∧
      ((∃ ref part, m.walk? root value p = some (ref, part) ∧
          Json.Pointer.resolve? p value = some part ∧ (m.node ref).Refuses part v.cause) ∨
        (∃ q k ref fields key element entry, p = q ++ [k] ∧
          m.walk? root value q = some (ref, .object fields) ∧
          m.node ref = .dictionary key element ∧ fields.lookup k = some entry ∧
          Json.Pointer.resolve? p value = some entry ∧ (m.node key).Refuses (.string k) v.cause) ∨
        (v.message = "missing required member" ∧
          ∃ q name ref fields members member, p = q ++ [name] ∧
            m.walk? root value q = some (ref, .object fields) ∧
            Json.Pointer.resolve? q value = some (.object fields) ∧
            m.node ref = .object members ∧ members.get? name = some member ∧
            member.required = true ∧
            (fields.lookup name = none ∨ fields.lookup name = some .null))) := by
  refine ⟨v.path, Json.Pointer.parse?_render v.path, ?_⟩
  -- Where the violation is was found along the value. The pointers resolve to the same parts.
  cases CompiledModel.locates_of_mem regular v mem with
  | part walk refused =>
    exact .inl ⟨_, _, walk, CompiledModel.resolve?_of_walk? walk, refused⟩
  | @key p ref key element fields k entry cause walk node found refused =>
    have resolved : Json.Pointer.resolve? (p ++ [k]) value = some entry := by
      rw [Json.Pointer.resolve?_append, CompiledModel.resolve?_of_walk? walk, Option.bind_some,
        Json.Pointer.resolve?, List.foldlM_cons, Json.Pointer.step?, found]
      rfl
    exact .inr (.inl ⟨p, k, ref, fields, key, element, entry, rfl, walk, node, found, resolved,
      refused⟩)
  | @missing p ref members member fields name walk node declared required absent =>
    exact .inr (.inr ⟨rfl, p, name, ref, fields, members, member, rfl, walk,
      CompiledModel.resolve?_of_walk? walk, node, declared, required, absent⟩)

/-- A dictionary of flags under levels. -/
def labelsRegistry : Registry where
  shapes := .ofList
    [("ns#Labels",
      { id := "ns#Labels", kind := .map, members := .empty, key := some "ns#Level"
        value := some "ns#Flags" }),
     ("ns#Level",
      { id := "ns#Level", kind := .enum
        members := .ofList [("LOW", ⟨"smithy.api#Unit", false, []⟩)] }),
     ("ns#Flags",
      { id := "ns#Flags", kind := .list, members := .empty
        element := some "smithy.api#Boolean" })]
  declared := 3

/-- Two keys that are no levels, and a flag that is none. -/
def labels : Json := .object [("", .array []), ("a/b~", .array [.bool true, .null])]

/-- The flag that is none is reported under its position, and its key with both escapes. -/
theorem label_located :
    let m := (Compiler.session labelsRegistry ["ns#Labels"]).finish
    ∃ v ∈ m.violations ⟨0⟩ labels, labels.Regular (fun _ => True) ∧ v.path.render = "/a~1b~0/1" ∧
      ∃ ref part, m.walk? ⟨0⟩ labels ["a/b~", "1"] = some (ref, part) ∧
        Json.Pointer.resolve? ["a/b~", "1"] labels = some part ∧
          (m.node ref).Refuses part v.cause := by
  intro m
  have regular : labels.Regular fun _ => True := by
    refine .object (by decide) fun f mem => ?_
    rcases List.mem_cons.1 mem with rfl | mem
    · exact .array fun item none => absurd none List.not_mem_nil
    · obtain rfl := List.mem_singleton.1 mem
      refine .array fun item mem => ?_
      rcases List.mem_cons.1 mem with rfl | mem
      · exact .bool true
      · obtain rfl := List.mem_singleton.1 mem
        exact .null
  have paths : (m.violations ⟨0⟩ labels).map (fun v => v.path.render) =
      ["/", "/a~1b~0", "/a~1b~0/1"] := by
    decide +kernel
  have last : "/a~1b~0/1" ∈ (m.violations ⟨0⟩ labels).map fun v => v.path.render := by
    rw [paths]
    simp
  obtain ⟨v, mem, path⟩ := List.mem_map.1 last
  refine ⟨v, mem, regular, path, ?_⟩
  obtain ⟨p, read, located⟩ := violation_located regular mem
  have segments : Json.Pointer.parse? "/a~1b~0/1" = some ["a/b~", "1"] := by decide +kernel
  rw [path, segments] at read
  cases read
  -- Around the flag is a list, so the flag is neither an entry nor a member.
  have around : (m.walk? ⟨0⟩ labels ["a/b~"]).map (fun at_ => at_.2.kindName) = some "array" := by
    decide +kernel
  have noObject {q : Json.Pointer} {k : String} {ref : Ref} {fields : List (String × Json)}
      (same : ["a/b~", "1"] = q ++ [k])
      (walk : m.walk? ⟨0⟩ labels q = some (ref, .object fields)) : False := by
    obtain ⟨rfl, -⟩ := List.append_inj' (show ["a/b~"] ++ ["1"] = q ++ [k] from same) rfl
    simp [walk, Json.kindName] at around
  rcases located with found | ⟨q, k, ref, fields, _, _, _, same, walk, -⟩ |
    ⟨-, q, name, ref, fields, _, _, same, walk, -⟩
  · exact found
  · exact (noObject same walk).elim
  · exact (noObject same walk).elim

end ShapeSchema
