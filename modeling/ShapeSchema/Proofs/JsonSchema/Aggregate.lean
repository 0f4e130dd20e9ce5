import ShapeSchema.Proofs.JsonSchema.Leaf

/-!
# `ShapeSchema.Proofs.JsonSchema.Aggregate`: nodes that lead to others

For a node that leads to others, its schema accepts a pruned value exactly if the value passes, with
no violation and no number that slips past a bound, as long as the same holds of every part of the
value under every node that this node leads to (`PartsAgree`). What is left to compare is what the
node itself asks: counts, which members are there, and for a union that one alternative is set. The
schema of a union lists alternatives that exclude each other, for each allows one field only, the
one that it is named for.
-/

set_option autoImplicit false

namespace ShapeSchema

open JsonSchema

/-- The values that the check of a value goes on to: items, values of fields, and keys as texts. -/
inductive Json.IsPart : Json → Json → Prop
  | item {item : Json} {items : List Json} (mem : item ∈ items) : IsPart item (.array items)
  | value {field : String × Json} {fields : List (String × Json)} (mem : field ∈ fields) :
      IsPart field.2 (.object fields)
  | key {field : String × Json} {fields : List (String × Json)} (mem : field ∈ fields) :
      IsPart (.string field.1) (.object fields)

/-- A part is smaller than the whole. -/
theorem Json.IsPart.sizeOf_lt {part value : Json} (h : part.IsPart value) :
    sizeOf part < sizeOf value := by
  cases h with
  | item mem =>
    have := List.sizeOf_lt_of_mem mem
    simp only [Json.array.sizeOf_spec]
    omega
  | @value field fields mem =>
    have := List.sizeOf_lt_of_mem mem
    obtain ⟨key, inner⟩ := field
    simp only [Json.object.sizeOf_spec, Prod.mk.sizeOf_spec] at this ⊢
    omega
  | @key field fields mem =>
    have := List.sizeOf_lt_of_mem mem
    obtain ⟨key, inner⟩ := field
    simp only [Json.object.sizeOf_spec, Json.string.sizeOf_spec, Prod.mk.sizeOf_spec] at this ⊢
    omega

/-- A part of a regular value is regular. -/
theorem Json.IsPart.regular {number : Json.Number → Prop} {part value : Json}
    (h : part.IsPart value) (regular : value.Regular number) : part.Regular number := by
  cases h with
  | item mem =>
    obtain _ | _ | _ | _ | values := regular
    exact values _ mem
  | value mem =>
    obtain _ | _ | _ | _ | _ | ⟨_, values⟩ := regular
    exact values _ mem
  | key mem => exact .string _

section Aggregate

variable {reading : Reading} {document : Json} {sub : Json → Json → Bool}
  {keywords : List (String × Json)} {m : CompiledModel} {ref : Ref}

/-- Schemas and checks agree on the parts of a value, under all nodes that a node leads to. -/
def PartsAgree (m : CompiledModel) (reading : Reading) (sub : Json → Json → Bool) (node : Node)
    (value : Json) : Prop :=
  ∀ (part : Json) (child : Ref), part.IsPart value → child ∈ node.children →
    (sub (m.childSchema child) (part.pruned m child) = true ↔ m.Passes reading child part)

/-- Pruning keeps the type of a value. -/
theorem hasType_pruned (type : String) (value : Json) :
    hasType reading type (value.pruned m ref) = hasType reading type value := by
  cases value with
  | array items =>
    rw [Json.pruned]
    split <;> rfl
  | _ => rfl

/-! ### Arrays -/

/-- Schema and checks agree on an array if they do on its items: both ask for the same counts. -/
theorem all_array_iff {element : Ref} {length : Length} (hnode : m.node ref = .array element length)
    {value : Json} (parts : PartsAgree m reading sub (.array element length) value) :
    (((Node.array element length).schemaFields m.childSchema).all fun entry =>
        meets reading document sub keywords entry (value.pruned m ref)) = true ↔
      m.Passes reading ref value := by
  cases value with
  | array items =>
    have pruned : (Json.array items).pruned m ref =
        .array (items.map fun item => item.pruned m element) := by
      rw [Json.pruned, hnode, ← prunedItems_eq]
    -- Item by item the schema of the element says what the validator says.
    have inner : meets reading document sub keywords ("items", m.childSchema element)
        (.array (items.map fun item => item.pruned m element)) = true ↔
        ∀ item ∈ items, m.Passes reading element item := by
      show (List.all _ _) = true ↔ _
      rw [List.all_map, List.all_eq_true]
      exact forall₂_congr fun item mem => parts item element (.item mem) List.mem_cons_self
    have typed : meets reading document sub keywords ("type", .string "array")
        (.array (items.map fun item => item.pruned m element)) = true := rfl
    rw [pruned, CompiledModel.passes_array_iff hnode, itemCountViolations_eq_nil_iff]
    simp only [Node.schemaFields, List.cons_append, List.all_cons, List.all_append,
      Bool.and_eq_true, all_keyword, typed, inner, meets_minItems, meets_maxItems, List.length_map]
    tauto
  | null | bool | number | string | object =>
    exact all_iff_of_not_takes hnode rfl rfl (hasType_pruned "array" _)

/-! ### Objects -/

/-- A name that is required is met by an object with that key. -/
theorem any_isText_iff {fields : List (String × Json)} {name : String} :
    (fields.any fun field => isText field.1 (.string name)) = true ↔
      (fields.lookup name).isSome = true := by
  rw [Option.isSome_iff_ne_none, ne_eq, Entries.lookup_eq_none_iff, not_not, List.any_eq_true]
  constructor
  · rintro ⟨field, mem, same⟩
    exact List.mem_map.2 ⟨field, mem, (beq_iff_eq.1 same).symm⟩
  · intro mem
    obtain ⟨field, hmem, same⟩ := List.mem_map.1 mem
    exact ⟨field, hmem, beq_iff_eq.2 same.symm⟩

/-- What a schema asks of one member, on the pruned object: if it is there its value fits, and it is
there if it is required. -/
theorem member_iff {members : OrderedMap MemberRef} {fields : List (String × Json)}
    (distinct : (fields.map Prod.fst).Nodup) {e : String × MemberRef} (mem : e ∈ members.entries)
    (parts : PartsAgree m reading sub (.object members) (.object fields))
    {seen : List (String × Json)}
    (pruned : prunedFields m ((Node.object members).fate fields) fields = seen) :
    ((match seen.lookup e.1 with
        | some part => sub (m.childSchema e.2.node) part
        | none => true) = true ∧
      (e.2.required = true → (seen.lookup e.1).isSome = true)) ↔
      MemberHolds (m.Passes reading) fields e.1 e.2 := by
  have known : members.get? e.1 = some e.2 := OrderedMap.get?_eq_some_iff.2 mem
  rw [← pruned, lookup_prunedFields distinct, MemberHolds]
  cases found : fields.lookup e.1 with
  | none => simp
  | some value =>
    have field : (e.1, value) ∈ fields := Entries.mem_of_lookup found
    have child : e.2.node ∈ (Node.object members).children :=
      List.mem_map.2 ⟨e.2, List.mem_map.2 ⟨e, mem, rfl⟩, rfl⟩
    have agree := parts value e.2.node (.value field) child
    rw [Option.bind_some, Node.fate, known]
    dsimp only
    -- A member that is null was dropped, so the schema does not see it either.
    cases hnull : value.isNull with
    | true => simp [Fate.apply]
    | false => simp [Fate.apply, agree]

/-- The keyword for required members is left out if there are none, and would be met then. -/
theorem all_required_iff {members : OrderedMap MemberRef} {seen : List (String × Json)}
    {required : List Json}
    (names : required = members.entries.filterMap fun e =>
      if e.2.required then some (Json.string e.1) else none) :
    ((if required.isEmpty then [] else [("required", Json.array required)]).all fun entry =>
        meets reading document sub keywords entry (.object seen)) = true ↔
      ∀ e ∈ members.entries, e.2.required = true → (seen.lookup e.1).isSome = true := by
  have listed : (required.all fun name => seen.any fun field => isText field.1 name) = true ↔
      ∀ e ∈ members.entries, e.2.required = true → (seen.lookup e.1).isSome = true := by
    rw [names, List.all_eq_true]
    constructor
    · intro all e mem required
      exact any_isText_iff.1 (all (.string e.1) (List.mem_filterMap.2 ⟨e, mem, if_pos required⟩))
    · intro all name hname
      obtain ⟨e, mem, he⟩ := List.mem_filterMap.1 hname
      split at he
      · cases he
        exact any_isText_iff.2 (all e mem (by assumption))
      · cases he
  -- Without required members the keyword is left out, and nothing is asked.
  rw [← listed]
  cases required with
  | nil => rfl
  | cons name rest =>
    show ((List.all _ _) && true) = true ↔ _
    rw [Bool.and_true]

/-- Schema and checks agree on an object if they do on its fields: both ask for the same members. -/
theorem all_object_iff {members : OrderedMap MemberRef} (hnode : m.node ref = .object members)
    {value : Json} {number : Json.Number → Prop} (regular : value.Regular number)
    (parts : PartsAgree m reading sub (.object members) value) :
    (((Node.object members).schemaFields m.childSchema).all fun entry =>
        meets reading document sub keywords entry (value.pruned m ref)) = true ↔
      m.Passes reading ref value := by
  cases value with
  | object fields =>
    obtain _ | _ | _ | _ | _ | ⟨distinct, -⟩ := regular
    have pruned : (Json.object fields).pruned m ref =
        .object (prunedFields m ((Node.object members).fate fields) fields) := by
      rw [Json.pruned, hnode]
    have holds := forall₂_congr fun e mem => member_iff distinct (e := e) mem parts rfl
    rw [pruned, CompiledModel.passes_object_iff hnode, ← holds, Node.schemaFields]
    -- From here on the schema only sees the pruned object.
    generalize prunedFields m ((Node.object members).fate fields) fields = seen
    have typed : meets reading document sub keywords ("type", .string "object")
        (.object seen) = true := rfl
    have properties : meets reading document sub keywords
        ("properties", .object (members.entries.map fun e => (e.1, m.childSchema e.2.node)))
        (.object seen) = true ↔
        ∀ e ∈ members.entries, (match seen.lookup e.1 with
          | some part => sub (m.childSchema e.2.node) part
          | none => true) = true := by
      show (List.all _ _) = true ↔ _
      rw [List.all_map, List.all_eq_true]
      rfl
    rw [List.all_cons, List.all_cons, typed, Bool.true_and, Bool.and_eq_true, properties,
      all_required_iff rfl]
    exact ⟨fun h e mem => ⟨h.1 e mem, h.2 e mem⟩,
      fun h => ⟨fun e mem => (h e mem).1, fun e mem => (h e mem).2⟩⟩
  | null | bool | number | string | array =>
    exact all_iff_of_not_takes hnode rfl rfl (hasType_pruned "object" _)

/-! ### Dictionaries -/

/-- Schema and checks agree on a dictionary if they do on its keys and its values. -/
theorem all_dictionary_iff {key element : Ref} (hnode : m.node ref = .dictionary key element)
    (undeclared : ∀ name, declares keywords name = false) {value : Json}
    {number : Json.Number → Prop} (regular : value.Regular number)
    (parts : PartsAgree m reading sub (.dictionary key element) value) :
    (((Node.dictionary key element).schemaFields m.childSchema).all fun entry =>
        meets reading document sub keywords entry (value.pruned m ref)) = true ↔
      m.Passes reading ref value := by
  cases value with
  | object fields =>
    obtain _ | _ | _ | _ | _ | ⟨distinct, -⟩ := regular
    have pruned : (Json.object fields).pruned m ref =
        .object (fields.map fun f => (f.1, f.2.pruned m element)) := by
      rw [Json.pruned, hnode, prunedFields_eq, ← List.filterMap_eq_map]
      rfl
    have typed : meets reading document sub keywords ("type", .string "object")
        (.object (fields.map fun f => (f.1, f.2.pruned m element))) = true := rfl
    have names : meets reading document sub keywords ("propertyNames", m.childSchema key)
        (.object (fields.map fun f => (f.1, f.2.pruned m element))) = true ↔
        ∀ f ∈ fields, m.Passes reading key (.string f.1) := by
      show (List.all _ _) = true ↔ _
      rw [List.all_map, List.all_eq_true]
      exact forall₂_congr fun f mem => parts (.string f.1) key (.key mem) List.mem_cons_self
    -- The schema of a dictionary declares no properties, so every field is an additional one.
    have values : meets reading document sub keywords
        ("additionalProperties", m.childSchema element)
        (.object (fields.map fun f => (f.1, f.2.pruned m element))) = true ↔
        ∀ f ∈ fields, m.Passes reading element f.2 := by
      show (List.all _ _) = true ↔ _
      rw [List.all_map, List.all_eq_true]
      refine forall₂_congr fun f mem => ?_
      rw [Function.comp_apply, undeclared, Bool.false_or]
      exact parts f.2 element (.value mem) (List.mem_cons_of_mem _ List.mem_cons_self)
    rw [pruned, CompiledModel.passes_dictionary_iff distinct hnode]
    simp only [Node.schemaFields, List.all_cons, List.all_nil, Bool.and_true, Bool.true_and,
      Bool.and_eq_true, typed, names, values]
    exact ⟨fun h f mem => ⟨h.1 f mem, h.2 f mem⟩,
      fun h => ⟨fun f mem => (h f mem).1, fun f mem => (h f mem).2⟩⟩
  | null | bool | number | string | array =>
    exact all_iff_of_not_takes hnode rfl rfl (hasType_pruned "object" _)

/-! ### Unions -/

/-- What is left of a field of a union that is set, where `count` fields are. -/
def prunedAlternative (m : CompiledModel) (alternatives : OrderedMap Ref) (count : Nat)
    (f : String × Json) : Json :=
  match alternatives.get? f.1 with
  | some ref => if count = 1 then f.2.pruned m ref else f.2
  | none => f.2

/-- Under a union a null goes, and any other field is pruned if it is the only one left. -/
theorem apply_fate_union (alternatives : OrderedMap Ref) (fields : List (String × Json))
    (f : String × Json) :
    ((Node.union alternatives).fate fields f.1 f.2).apply m f.2 =
      if f.2.isNull then none
      else some (prunedAlternative m alternatives (setFields fields).length f) := by
  -- A null is dropped. What is left is pruned if it is alone and known.
  rw [Node.fate, prunedAlternative]
  show Fate.apply m f.2 (if f.2.isNull = true then _ else match alternatives.get? f.1 with
    | some ref => if (setFields fields).length = 1 then _ else _
    | none => _) = _
  cases f.2.isNull with
  | true => rfl
  | false =>
    rw [if_neg Bool.false_ne_true, if_neg Bool.false_ne_true]
    cases alternatives.get? f.1 with
    | none => rfl
    | some ref =>
      dsimp only
      split <;> rfl

/-- Under a union an object keeps the fields that are set. -/
theorem prunedFields_union (alternatives : OrderedMap Ref) (fields : List (String × Json)) :
    prunedFields m ((Node.union alternatives).fate fields) fields =
      (setFields fields).map fun f =>
        (f.1, prunedAlternative m alternatives (setFields fields).length f) := by
  rw [prunedFields_eq]
  simp only [apply_fate_union]
  -- How many fields are set is a fact about the whole object, so the number stays fixed.
  generalize (setFields fields).length = count
  induction fields with
  | nil => rfl
  | cons f fields ih =>
    rw [List.filterMap_cons, ih, setFields, setFields, List.filter_cons]
    cases f.2.isNull <;> rfl

/-- Distinct keys that are all the same make one field. -/
theorem eq_singleton_of_keys {seen : List (String × Json)} {name : String}
    (distinct : (seen.map Prod.fst).Nodup) (same : ∀ f ∈ seen, f.1 = name) {part : Json}
    (found : seen.lookup name = some part) : seen = [(name, part)] := by
  cases seen with
  | nil => cases found
  | cons f rest =>
    cases rest with
    | nil =>
      obtain ⟨key, value⟩ := f
      have hkey : key = name := same _ List.mem_cons_self
      rw [Entries.lookup_cons, if_pos hkey] at found
      cases found
      rw [hkey]
    | cons g rest =>
      -- A second field would have the same key as the first.
      have first : f.1 = name := same f List.mem_cons_self
      have second : g.1 = name := same g (List.mem_cons_of_mem _ List.mem_cons_self)
      rw [List.map_cons, List.map_cons, first, second] at distinct
      simp at distinct

/-- The keywords of the schema of an alternative. -/
def alternativeKeywords (name : String) (schema : Json) : List (String × Json) :=
  [("type", .string "object"), ("properties", .object [(name, schema)]),
    ("required", .array [.string name]), ("additionalProperties", .bool false)]

/-- The schema of an alternative declares the one property that it is named for. -/
theorem declares_alternativeKeywords {name key : String} {schema : Json} :
    declares (alternativeKeywords name schema) key = true ↔ key = name := by
  show (List.lookup key [(name, schema)]).isSome = true ↔ _
  rw [Entries.lookup_cons]
  by_cases same : name = key
  · simp [same]
  · simp [same, Ne.symm same]

/-- The schema of an alternative accepts an object with just the field that it is named for. -/
theorem meetsAll_alternative_iff {name : String} {schema : Json} {seen : List (String × Json)}
    (distinct : (seen.map Prod.fst).Nodup) (refuses : ∀ v, sub (.bool false) v = false) :
    meetsAll reading document sub (alternativeKeywords name schema) (.object seen) = true ↔
      ∃ part, seen = [(name, part)] ∧ sub schema part = true := by
  -- Three of the keywords say something of the members: their schema, their presence, their names.
  have property : meets reading document sub (alternativeKeywords name schema)
      ("properties", .object [(name, schema)]) (.object seen) = true ↔
      ∀ part, seen.lookup name = some part → sub schema part = true := by
    show ((match seen.lookup name with
      | some part => sub schema part
      | none => true) && true) = true ↔ _
    cases seen.lookup name <;> simp
  have required : meets reading document sub (alternativeKeywords name schema)
      ("required", .array [.string name]) (.object seen) = true ↔
      (seen.lookup name).isSome = true := by
    rw [← any_isText_iff]
    show ((List.any _ _) && true) = true ↔ _
    rw [Bool.and_true]
  have closed : meets reading document sub (alternativeKeywords name schema)
      ("additionalProperties", .bool false) (.object seen) = true ↔ ∀ f ∈ seen, f.1 = name := by
    show (List.all _ _) = true ↔ _
    rw [List.all_eq_true]
    refine forall₂_congr fun f _ => ?_
    rw [refuses, Bool.or_false, declares_alternativeKeywords]
  show (true && (_ && (_ && (_ && true)))) = true ↔ _
  rw [Bool.true_and, Bool.and_true, Bool.and_eq_true, Bool.and_eq_true, property, required, closed]
  constructor
  · rintro ⟨accepted, present, same⟩
    obtain ⟨part, found⟩ := Option.isSome_iff_exists.1 present
    exact ⟨part, eq_singleton_of_keys distinct same found, accepted part found⟩
  · rintro ⟨part, rfl, accepted⟩
    have found : List.lookup name [(name, part)] = some part := List.lookup_cons_self
    refine ⟨?_, by rw [found]; rfl, by simp⟩
    intro part' found'
    rw [found] at found'
    cases found'
    exact accepted

/-- How many alternatives accept an object whose set fields are known. -/
theorem oneOf_alternatives_iff (inner : Json → Json → Bool) {alternatives : OrderedMap Ref}
    (schemas : ∀ e ∈ alternatives.entries, ∀ seen : List (String × Json),
      (seen.map Prod.fst).Nodup →
      (sub (Node.alternativeSchema e.1 (m.childSchema e.2)) (.object seen) = true ↔
        ∃ part, seen = [(e.1, part)] ∧ inner (m.childSchema e.2) part = true))
    {seen : List (String × Json)} (distinct : (seen.map Prod.fst).Nodup) :
    (((alternatives.entries.map fun e => Node.alternativeSchema e.1 (m.childSchema e.2)).filter
        fun schema => sub schema (.object seen)).length == 1) = true ↔
      ∃ tag part ref, seen = [(tag, part)] ∧ alternatives.get? tag = some ref ∧
        inner (m.childSchema ref) part = true := by
  rw [List.filter_map, List.length_map, beq_iff_eq]
  by_cases single : ∃ tag part, seen = [(tag, part)]
  · obtain ⟨tag, part, rfl⟩ := single
    -- Only the alternative that the field is named for can accept the object.
    have tagged : (alternatives.entries.filter
          ((fun schema => sub schema (.object [(tag, part)])) ∘
            fun e => Node.alternativeSchema e.1 (m.childSchema e.2))) =
        alternatives.entries.filter fun e => e.1 == tag && inner (m.childSchema e.2) part := by
      refine List.filter_congr fun e mem => ?_
      rw [Bool.eq_iff_iff, Function.comp_apply, schemas e mem _ distinct, Bool.and_eq_true,
        beq_iff_eq]
      constructor
      · rintro ⟨part', same, accepted⟩
        cases same
        exact ⟨rfl, accepted⟩
      · rintro ⟨rfl, accepted⟩
        exact ⟨part, rfl, accepted⟩
    rw [tagged, Entries.filter_key (p := fun ref => inner (m.childSchema ref) part)
      alternatives.distinct]
    show _ ↔ ∃ tag' part' ref, _ ∧ alternatives.entries.lookup tag' = some ref ∧ _
    constructor
    · intro one
      split at one
      · rename_i ref known
        split at one
        · exact ⟨tag, part, ref, rfl, known, by assumption⟩
        · cases one
      · cases one
    · rintro ⟨tag', part', ref, same, known, accepted⟩
      cases same
      rw [known]
      dsimp only
      rw [if_pos accepted]
      rfl
  · -- None or several fields: each alternative misses its own, or finds one that is not its own.
    have none : (alternatives.entries.filter
        ((fun schema => sub schema (.object seen)) ∘
          fun e => Node.alternativeSchema e.1 (m.childSchema e.2))) = [] := by
      rw [List.filter_eq_nil_iff]
      intro e mem accepted
      obtain ⟨part, same, -⟩ := (schemas e mem seen distinct).1 accepted
      exact single ⟨e.1, part, same⟩
    rw [none]
    constructor
    · intro one
      cases one
    · rintro ⟨tag, part, -, same, -⟩
      exact absurd ⟨tag, part, same⟩ single

/-- No alternative accepts a value that is not an object. -/
theorem oneOf_alternatives_of_not_object {inner : Json → Json → Bool}
    {alternatives : OrderedMap Ref}
    (opens : ∀ keywords v, sub (.object keywords) v = meetsAll reading document inner keywords v)
    {seen : Json} (other : hasType reading "object" seen = false) :
    (((alternatives.entries.map fun e => Node.alternativeSchema e.1 (m.childSchema e.2)).filter
        fun schema => sub schema seen).length == 1) = false := by
  have none : ((alternatives.entries.map fun e =>
      Node.alternativeSchema e.1 (m.childSchema e.2)).filter fun schema =>
        sub schema seen) = [] := by
    rw [List.filter_eq_nil_iff]
    intro schema mem accepted
    obtain ⟨e, -, rfl⟩ := List.mem_map.1 mem
    rw [Node.alternativeSchema, opens, meetsAll, List.all_cons, Bool.and_eq_true] at accepted
    have typed : hasType reading "object" seen = true := accepted.1
    rw [other] at typed
    cases typed
  rw [none]
  rfl

/-- Schema and checks agree on a union if they do on the field that is set: both ask for exactly
one. -/
theorem all_union_iff {inner : Json → Json → Bool} {alternatives : OrderedMap Ref}
    (hnode : m.node ref = .union alternatives)
    (opens : ∀ keywords v, sub (.object keywords) v = meetsAll reading document inner keywords v)
    (refuses : ∀ v, inner (.bool false) v = false) {value : Json} {number : Json.Number → Prop}
    (regular : value.Regular number)
    (parts : PartsAgree m reading inner (.union alternatives) value) :
    (((Node.union alternatives).schemaFields m.childSchema).all fun entry =>
        meets reading document sub keywords entry (value.pruned m ref)) = true ↔
      m.Passes reading ref value := by
  show ((List.length _ == 1) && true) = true ↔ _
  rw [Bool.and_true]
  cases value with
  | object fields =>
    obtain _ | _ | _ | _ | _ | ⟨distinct, -⟩ := regular
    have pruned : (Json.object fields).pruned m ref = .object ((setFields fields).map fun f =>
        (f.1, prunedAlternative m alternatives (setFields fields).length f)) := by
      rw [Json.pruned, hnode, prunedFields_union]
    have keys := (keys_prunedFields_sublist (m := m) fields
      ((Node.union alternatives).fate fields)).nodup distinct
    have agree : ∀ {tag v ref}, setFields fields = [(tag, v)] → alternatives.get? tag = some ref →
        (inner (m.childSchema ref) (v.pruned m ref) = true ↔ m.Passes reading ref v) := by
      intro tag v ref set known
      have isSet : (tag, v) ∈ setFields fields := by
        rw [set]
        exact List.mem_singleton_self _
      have field : (tag, v) ∈ fields := (List.mem_filter.1 isSet).1
      have child : ref ∈ (Node.union alternatives).children :=
        List.mem_map.2 ⟨(tag, ref), OrderedMap.get?_eq_some_iff.1 known, rfl⟩
      exact parts v ref (.value field) child
    rw [prunedFields_union] at keys
    -- Pruning goes into a field only if no other is set, and only then do the checks look into it.
    rw [pruned, oneOf_alternatives_iff inner ?_ keys, CompiledModel.passes_union_iff distinct hnode]
    · constructor
      · rintro ⟨tag, part, ref, seen, known, accepted⟩
        obtain ⟨⟨key, v⟩, set, image⟩ := List.map_eq_singleton_iff.1 seen
        cases image
        refine ⟨key, v, ref, set, known, (agree set known).1 ?_⟩
        rw [set, prunedAlternative, known] at accepted
        exact accepted
      · rintro ⟨tag, v, ref, set, known, clean⟩
        refine ⟨tag, v.pruned m ref, ref, ?_, known, (agree set known).2 clean⟩
        rw [set, List.map_singleton, prunedAlternative, known]
        rfl
    · intro e _ seen seenDistinct
      rw [Node.alternativeSchema, opens]
      exact meetsAll_alternative_iff seenDistinct refuses
  | null | bool | number | string | array =>
    have untyped (v : Json) : hasType reading "object" (v.pruned m ref) =
        hasType reading "object" v := hasType_pruned "object" v
    rw [oneOf_alternatives_of_not_object opens (untyped _)]
    refine iff_of_false Bool.false_ne_true (CompiledModel.not_passes_of_not_takes ?_ ?_)
    · rw [hnode]
      rfl
    · rw [hnode]
      rfl

end Aggregate

end ShapeSchema
