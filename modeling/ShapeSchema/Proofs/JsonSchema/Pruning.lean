import ShapeSchema.Proofs.OrderedMap
import ShapeSchema.Schema.Model

/-!
# `ShapeSchema.Proofs.JsonSchema.Pruning`: values without their nulls

A validator takes a member that is null for one that is absent, and a document does not. `pruned`
removes the difference: it follows a node down a value, drops declared members and union fields that
are null, and leaves everything else where it is. Nulls in arrays and dictionaries stay.

`Json.Regular` says that a value is one that readers give: no object has a key twice.
-/

set_option autoImplicit false

namespace ShapeSchema

/-- Values whose objects have distinct keys, and whose numbers have a property. -/
inductive Json.Regular (number : Json.Number → Prop) : Json → Prop
  | null : Regular number .null
  | bool (b : Bool) : Regular number (.bool b)
  | number {n : Json.Number} (h : number n) : Regular number (.number n)
  | string (s : String) : Regular number (.string s)
  | array {items : List Json} (values : ∀ item ∈ items, Regular number item) :
      Regular number (.array items)
  | object {fields : List (String × Json)} (distinct : (fields.map Prod.fst).Nodup)
      (values : ∀ field ∈ fields, Regular number field.2) : Regular number (.object fields)

namespace Json

variable {P : Json.Number → Prop}

/-- Texts are regular. -/
@[simp] theorem regular_string (s : String) : (Json.string s).Regular P := .string s

/-- A number is regular if it has the property. -/
@[simp] theorem regular_number {n : Json.Number} : (Json.number n).Regular P ↔ P n :=
  ⟨fun h => by cases h; assumption, .number⟩

/-- An object is regular if its keys are distinct and its values are regular. -/
@[simp] theorem regular_object {fields : List (String × Json)} :
    (Json.object fields).Regular P ↔
      (fields.map Prod.fst).Nodup ∧ ∀ field ∈ fields, field.2.Regular P :=
  ⟨fun h => by cases h with | object distinct values => exact ⟨distinct, values⟩,
    fun ⟨distinct, values⟩ => .object distinct values⟩

end Json

/-- A weaker property of the numbers holds of a regular value as well. -/
theorem Json.Regular.imp {P Q : Json.Number → Prop} (weaker : ∀ n, P n → Q n) {value : Json}
    (h : value.Regular P) : value.Regular Q := by
  induction h with
  | null => exact .null
  | bool b => exact .bool b
  | number h => exact .number (weaker _ h)
  | string s => exact .string s
  | array _ ih => exact .array ih
  | object distinct _ ih => exact .object distinct ih

/-- What pruning does with a field. -/
inductive Fate where
  | drop
  | keep
  | prune (ref : Ref)

/-- The fate of a field of an object under a node: a declared member that is null goes, and so does
every null of a union; members, values of a dictionary and the one field of a union are pruned in
turn. -/
def Node.fate (node : Node) (fields : List (String × Json)) (key : String) (value : Json) : Fate :=
  match node with
  | .object members =>
    match members.get? key with
    | some member => if value.isNull then .drop else .prune member.node
    | none => .keep
  | .dictionary _ element => .prune element
  | .union alternatives =>
    if value.isNull then .drop
    else
      match alternatives.get? key with
      | some ref => if (fields.filter fun f => !f.2.isNull).length = 1 then .prune ref else .keep
      | none => .keep
  | _ => .keep

mutual

/-- A value without the nulls that stand for absent members under a node. -/
def Json.pruned (m : CompiledModel) : Json → Ref → Json
  | .array items, ref =>
    match m.node ref with
    | .array element _ => .array (prunedItems m element items)
    | _ => .array items
  | .object fields, ref => .object (prunedFields m ((m.node ref).fate fields) fields)
  | value, _ => value

/-- The items of an array, each pruned under the node of the elements. -/
def prunedItems (m : CompiledModel) (element : Ref) : List Json → List Json
  | [] => []
  | item :: items => item.pruned m element :: prunedItems m element items

/-- The fields of an object after what becomes of each. -/
def prunedFields (m : CompiledModel) (fate : String → Json → Fate) :
    List (String × Json) → List (String × Json)
  | [] => []
  | (key, value) :: fields =>
    match fate key value with
    | .drop => prunedFields m fate fields
    | .keep => (key, value) :: prunedFields m fate fields
    | .prune ref => (key, value.pruned m ref) :: prunedFields m fate fields

end

/-! ### Pruning field by field -/

section Fields

variable {m : CompiledModel}

/-- What is left of a value. -/
def Fate.apply (m : CompiledModel) (value : Json) : Fate → Option Json
  | .drop => none
  | .keep => some value
  | .prune ref => some (value.pruned m ref)

/-- Pruning an array prunes its items. -/
theorem prunedItems_eq (items : List Json) (element : Ref) :
    prunedItems m element items = items.map fun item => item.pruned m element := by
  induction items with
  | nil => rfl
  | cons item items ih => rw [prunedItems, ih, List.map_cons]

/-- Pruning an object takes its fields one by one and drops those with nothing left. -/
theorem prunedFields_eq (fields : List (String × Json)) (fate : String → Json → Fate) :
    prunedFields m fate fields =
      fields.filterMap fun f => ((fate f.1 f.2).apply m f.2).map fun v => (f.1, v) := by
  induction fields with
  | nil => rfl
  | cons f fields ih =>
    obtain ⟨key, value⟩ := f
    rw [prunedFields, List.filterMap_cons, ih]
    cases fate key value <;> rfl

/-- Pruning makes no new keys. -/
theorem keys_prunedFields_sublist (fields : List (String × Json)) (fate : String → Json → Fate) :
    List.Sublist ((prunedFields m fate fields).map Prod.fst) (fields.map Prod.fst) := by
  induction fields with
  | nil => exact List.Sublist.refl _
  | cons f fields ih =>
    obtain ⟨key, value⟩ := f
    rw [prunedFields]
    cases fate key value with
    | drop => exact ih.cons _
    | keep => exact ih.cons_cons _
    | prune ref => exact ih.cons_cons _

/-- A field is found after pruning if it was there and has not been dropped. -/
theorem lookup_prunedFields {fields : List (String × Json)} (distinct : (fields.map Prod.fst).Nodup)
    (fate : String → Json → Fate) (key : String) :
    List.lookup key (prunedFields m fate fields) =
      (fields.lookup key).bind fun value => (fate key value).apply m value := by
  induction fields with
  | nil => rfl
  | cons f fields ih =>
    obtain ⟨k, value⟩ := f
    rw [List.map_cons, List.nodup_cons] at distinct
    have rest := ih distinct.2
    rw [prunedFields, Entries.lookup_cons]
    by_cases same : k = key
    · subst same
      -- If the field is dropped, no later one has its key.
      have absent : fields.lookup k = none := Entries.lookup_eq_none_iff.2 distinct.1
      rw [absent, Option.bind_none] at rest
      rw [if_pos rfl, Option.bind_some]
      cases fate k value with
      | drop => exact rest
      | keep | prune => exact List.lookup_cons_self
    · rw [if_neg same, ← rest]
      cases fate k value with
      | drop => rfl
      | keep | prune => exact Entries.lookup_cons_ne _ same

/-- A node without references prunes nothing. -/
theorem pruned_of_leaf {ref : Ref} (leaf : (m.node ref).isAggregate = false) (value : Json) :
    value.pruned m ref = value := by
  cases value with
  | array items =>
    rw [Json.pruned]
    cases hnode : m.node ref with
    | array =>
      rw [hnode] at leaf
      cases leaf
    | _ => rfl
  | object fields =>
    -- Only members, dictionary values and alternatives are pruned, and a leaf has none of these.
    have keep : (m.node ref).fate fields = fun _ _ => .keep := by
      funext key value
      cases hnode : m.node ref with
      | object | dictionary | union =>
        rw [hnode] at leaf
        cases leaf
      | _ => rfl
    rw [Json.pruned, keep, prunedFields_eq]
    show Json.object (fields.filterMap some) = _
    rw [List.filterMap_some]
  | _ => rfl

end Fields

end ShapeSchema
