import ShapeSchema.Proofs.Lists
import ShapeSchema.Proofs.Schema.Definitions
import ShapeSchema.Schema.Violation

/-!
# `ShapeSchema.Proofs.Schema.Twin`: references are only names

Two models may number the same nodes differently. `Twins m m' R` says that `R` relates references
whose nodes are alike: same constraints, same names, related references in the same positions, and
the same shape. It is a bisimulation, so it speaks about cyclic nodes without unrolling them.

Nothing that a caller gets to see tells twins apart: neither the schema of a node with its
definitions (`Twins.standalone`) nor the violations of any value (`Twins.violations`).
-/

set_option autoImplicit false

namespace ShapeSchema

/-! ### Nodes that are alike -/

section Alike

variable (R : Ref → Ref → Prop)

/-- Members that stand at the same position: same name, same requiredness, related nodes. -/
def AlikeMembers (e e' : String × MemberRef) : Prop :=
  e.1 = e'.1 ∧ e.2.required = e'.2.required ∧ R e.2.node e'.2.node

/-- Alternatives that stand at the same position. -/
def AlikeAlternatives (e e' : String × Ref) : Prop := e.1 = e'.1 ∧ R e.2 e'.2

/-- The nodes are the same up to the references in them, which are related. -/
inductive Node.Alike : Node → Node → Prop
  | leaf {node : Node} (leaf : node.isAggregate = false) : Alike node node
  | array {a b : Ref} {length : Length} (element : R a b) :
      Alike (.array a length) (.array b length)
  | object {members members' : OrderedMap MemberRef}
      (alike : List.Forall₂ (AlikeMembers R) members.entries members'.entries) :
      Alike (.object members) (.object members')
  | dictionary {key key' value value' : Ref} (keys : R key key') (values : R value value') :
      Alike (.dictionary key value) (.dictionary key' value')
  | union {alternatives alternatives' : OrderedMap Ref}
      (alike : List.Forall₂ (AlikeAlternatives R) alternatives.entries alternatives'.entries) :
      Alike (.union alternatives) (.union alternatives')

end Alike

namespace Node.Alike

variable {R : Ref → Ref → Prop} {n n' : Node}

/-- Nodes are alike the other way round, under the relation turned over. -/
theorem symm (h : n.Alike R n') : n'.Alike (flip R) n := by
  cases h with
  | leaf leaf => exact .leaf leaf
  | array element => exact .array element
  | object alike => exact .object (alike.flip.imp fun _ _ h => ⟨h.1.symm, h.2.1.symm, h.2.2⟩)
  | dictionary keys values => exact .dictionary keys values
  | union alike => exact .union (alike.flip.imp fun _ _ h => ⟨h.1.symm, h.2⟩)

/-- A node is alike to itself under a relation that its children have to themselves. -/
theorem of_children {node : Node} (related : ∀ child ∈ node.children, R child child) :
    node.Alike R node := by
  cases node with
  | array element length => exact .array (related element List.mem_cons_self)
  | object members =>
    refine .object (List.forall₂_same.2 fun e he => ⟨rfl, rfl, related _ ?_⟩)
    exact List.mem_map.2 ⟨e.2, List.mem_map.2 ⟨e, he, rfl⟩, rfl⟩
  | dictionary key value =>
    exact .dictionary (related key List.mem_cons_self)
      (related value (List.mem_cons_of_mem _ List.mem_cons_self))
  | union alternatives =>
    exact .union (List.forall₂_same.2 fun e he => ⟨rfl, related _ (List.mem_map.2 ⟨e, he, rfl⟩)⟩)
  | _ => exact .leaf rfl

/-- Both are leaves or neither is. -/
theorem isAggregate (h : n.Alike R n') : n.isAggregate = n'.isAggregate := by
  cases h <;> rfl

/-- The references of nodes that are alike are related, position by position. -/
theorem children (h : n.Alike R n') : List.Forall₂ R n.children n'.children := by
  cases h with
  | leaf leaf =>
    cases n with
    | array | object | dictionary | union => cases leaf
    | _ => exact .nil
  | array element => exact .cons element .nil
  | object alike =>
    show List.Forall₂ R (List.map _ (List.map _ _)) (List.map _ (List.map _ _))
    rw [List.map_map, List.map_map, List.forall₂_map_left_iff, List.forall₂_map_right_iff]
    exact alike.imp fun _ _ h => h.2.2
  | dictionary keys values => exact .cons keys (.cons values .nil)
  | union alike =>
    show List.Forall₂ R (List.map _ _) (List.map _ _)
    rw [List.forall₂_map_left_iff, List.forall₂_map_right_iff]
    exact alike.imp fun _ _ h => h.2

/-- Alike nodes have the same schema where they are leaves. -/
theorem leafFields (h : n.Alike R n') : n.leafFields = n'.leafFields := by
  cases h <;> rfl

/-- The schemas of nodes that are alike are equal where the schemas of related references are. -/
theorem schemaFields (h : n.Alike R n') {child child' : Ref → Json}
    (agree : ∀ {a b : Ref}, R a b → child a = child' b) :
    n.schemaFields child = n'.schemaFields child' := by
  cases h with
  | leaf leaf =>
    cases n with
    | array | object | dictionary | union => cases leaf
    | _ => rfl
  | array element =>
    dsimp only [Node.schemaFields]
    rw [agree element]
  | @object members members' alike =>
    have properties : (members.entries.map fun e => (e.1, child e.2.node)) =
        members'.entries.map fun e => (e.1, child' e.2.node) :=
      map_eq_of_forall₂ (fun _ _ h => Prod.ext h.1 (agree h.2.2)) alike
    -- What is required depends on names and flags alone, and these are the same on both sides.
    have flags : (members.entries.map fun e => (e.1, e.2.required)) =
        members'.entries.map fun e => (e.1, e.2.required) :=
      map_eq_of_forall₂ (fun _ _ h => Prod.ext h.1 h.2.1) alike
    have required := congrArg
      (List.filterMap fun e => if e.2 then some (Json.string e.1) else none) flags
    rw [List.filterMap_map, List.filterMap_map] at required
    change (members.entries.filterMap fun e =>
        if e.2.required then some (Json.string e.1) else none) =
      members'.entries.filterMap fun e =>
        if e.2.required then some (Json.string e.1) else none at required
    dsimp only [Node.schemaFields]
    rw [properties, required]
  | dictionary keys values =>
    dsimp only [Node.schemaFields]
    rw [agree keys, agree values]
  | @union alternatives alternatives' alike =>
    have schemas : (alternatives.entries.map fun e => alternativeSchema e.1 (child e.2)) =
        alternatives'.entries.map fun e => alternativeSchema e.1 (child' e.2) :=
      map_eq_of_forall₂ (fun _ _ h => by rw [h.1, agree h.2]) alike
    dsimp only [Node.schemaFields]
    rw [schemas]

/-- They expect the same kind of value. -/
theorem expected? (h : n.Alike R n') : n.expected? = n'.expected? := by
  cases h <;> rfl

/-- They say the same of a value of the wrong kind. -/
theorem mismatch (h : n.Alike R n') (value : Json) : n.mismatch value = n'.mismatch value := by
  rw [Node.mismatch, Node.mismatch, h.expected?]

/-- They say the same of a text. -/
theorem checkText (h : n.Alike R n') (s : String) : n.checkText s = n'.checkText s := by
  cases h with
  | leaf leaf => rfl
  | array | object | dictionary | union => rfl

end Node.Alike

/-! ### Models that are twins -/

/-- The relation ties references whose nodes are alike and belong to the same shape. -/
structure Twins (m m' : CompiledModel) (R : Ref → Ref → Prop) : Prop where
  node : ∀ {a b : Ref}, R a b → (m.node a).Alike R (m'.node b)
  shapeId? : ∀ {a b : Ref}, R a b → m.shapeId? a = m'.shapeId? b

namespace Twins

variable {m m' : CompiledModel} {R : Ref → Ref → Prop}

/-- Models are twins the other way round. -/
theorem symm (h : Twins m m' R) : Twins m' m (flip R) where
  node related := (h.node related).symm
  shapeId? related := (h.shapeId? related).symm

/-! #### Schemas -/

/-- Related references are defined under the same id, or neither is. -/
theorem definedShape? (h : Twins m m' R) {a b : Ref} (related : R a b) :
    m.definedShape? a = m'.definedShape? b := by
  rw [CompiledModel.definedShape?, CompiledModel.definedShape?, (h.node related).isAggregate,
    h.shapeId? related]

/-- Related references have the same schema in the place of a child. -/
theorem childSchema (h : Twins m m' R) {a b : Ref} (related : R a b) :
    m.childSchema a = m'.childSchema b := by
  rw [CompiledModel.childSchema, CompiledModel.childSchema, h.definedShape? related,
    (h.node related).leafFields]

/-- Their nodes have the same schema. -/
theorem schemaFields (h : Twins m m' R) {a b : Ref} (related : R a b) :
    m.schemaFields a = m'.schemaFields b :=
  (h.node related).schemaFields fun inner => h.childSchema inner

/-- They have the same definition. -/
theorem definition? (h : Twins m m' R) {a b : Ref} (related : R a b) :
    m.definition? a = m'.definition? b := by
  rw [CompiledModel.definition?, CompiledModel.definition?, h.shapeId? related,
    h.schemaFields related]

/-- A step of the walk is matched by a step of the other walk. -/
theorem leads (h : Twins m m' R) {a b x : Ref} (related : R a b) (step : m.Leads a x) :
    ∃ y, m'.Leads b y ∧ R x y := by
  obtain ⟨child, defined⟩ := List.mem_filter.1 step
  obtain ⟨y, child', inner⟩ := exists_of_forall₂ (h.node related).children child
  refine ⟨y, List.mem_filter.2 ⟨child', ?_⟩, inner⟩
  rw [← h.definedShape? inner]
  exact defined

/-- A chain of steps is matched by a chain of steps. -/
theorem transGen (h : Twins m m' R) {a b x : Ref} (related : R a b)
    (chain : Relation.TransGen m.Leads a x) :
    ∃ y, Relation.TransGen m'.Leads b y ∧ R x y := by
  induction chain with
  | single step =>
    obtain ⟨y, step', inner⟩ := h.leads related step
    exact ⟨y, .single step', inner⟩
  | tail _ step ih =>
    obtain ⟨y, chain', inner⟩ := ih
    obtain ⟨z, step', last⟩ := h.leads inner step
    exact ⟨z, .tail chain' step', last⟩

/-- Twins need no other definitions. -/
theorem definitions_subset (h : Twins m m' R) {a b : Ref} (related : R a b) {d : String × Json}
    (hd : d ∈ m.definitions a) : d ∈ m'.definitions b := by
  obtain ⟨x, chain, hx⟩ := CompiledModel.mem_definitions_iff.1 hd
  obtain ⟨y, chain', inner⟩ := h.transGen related chain
  exact CompiledModel.mem_definitions_iff.2 ⟨y, chain', (h.definition? inner) ▸ hx⟩

/-- Twins have the same standalone schema, definitions included. -/
theorem standalone (h : Twins m m' R) {a b : Ref} (related : R a b) :
    m.standalone a = m'.standalone b := by
  -- The two walks may go through the definitions in different orders, but they find the same set.
  have definitions : m.definitions a = m'.definitions b :=
    CompiledModel.definitions_eq_of_mem_iff fun _ =>
      ⟨h.definitions_subset related, h.symm.definitions_subset related⟩
  rw [CompiledModel.standalone, CompiledModel.standalone, definitions, h.schemaFields related]

/-! #### Violations -/

/-- Checks that give the same violations for related references. -/
def SameCheck (R : Ref → Ref → Prop) (check check' : Check) : Prop :=
  ∀ a b : Ref, R a b → check a = check' b

/-- Fields with the same key and value whose checks agree. -/
def SameField (R : Ref → Ref → Prop) (f f' : String × Json × Check) : Prop :=
  f.1 = f'.1 ∧ f.2.1 = f'.2.1 ∧ SameCheck R f.2.2 f'.2.2

section Checks

variable {checks checks' : List Check} {fields fields' : List (String × Json × Check)}

/-- Items that are checked alike under related references have the same violations. -/
theorem checkItems (items : List.Forall₂ (SameCheck R) checks checks') {a b : Ref}
    (related : R a b) (position : Nat) :
    ShapeSchema.checkItems a position checks = ShapeSchema.checkItems b position checks' := by
  induction items generalizing position with
  | nil => rfl
  | cons head _ ih =>
    rw [ShapeSchema.checkItems, ShapeSchema.checkItems, head a b related, ih]

/-- A key is found in both lists of fields or in neither. -/
theorem get?_fields (same : List.Forall₂ (SameField R) fields fields') (key : String) :
    (fields.lookup key = none ∧ fields'.lookup key = none) ∨
      ∃ value check check', fields.lookup key = some (value, check) ∧
        fields'.lookup key = some (value, check') ∧ SameCheck R check check' := by
  induction same with
  | nil => exact .inl ⟨rfl, rfl⟩
  | @cons f f' _ _ head _ ih =>
    obtain ⟨key', value, check⟩ := f
    obtain ⟨key'', value', check'⟩ := f'
    obtain ⟨hkey, hvalue, agree⟩ := head
    dsimp only at hkey hvalue
    subst hkey hvalue
    rw [Entries.lookup_cons, Entries.lookup_cons]
    split
    · exact .inr ⟨value, check, check', rfl, rfl, agree⟩
    · exact ih

/-- Fields that are checked alike have the same violations as members. -/
theorem checkMembers (same : List.Forall₂ (SameField R) fields fields')
    {members members' : List (String × MemberRef)}
    (alike : List.Forall₂ (AlikeMembers R) members members') :
    ShapeSchema.checkMembers fields members = ShapeSchema.checkMembers fields' members' := by
  induction alike with
  | nil => rfl
  | @cons e e' _ _ head _ ih =>
    obtain ⟨name, member⟩ := e
    obtain ⟨name', member'⟩ := e'
    obtain ⟨hname, hrequired, related⟩ := head
    dsimp only at hname hrequired related
    subst hname
    rw [ShapeSchema.checkMembers, ShapeSchema.checkMembers, ih, hrequired]
    -- Both objects lack the member, or both have it with checks that agree.
    rcases get?_fields same name with
      ⟨absent, absent'⟩ | ⟨value, check, check', found, found', agree⟩
    · rw [absent, absent']
    · rw [found, found']
      dsimp only
      rw [agree _ _ related]

/-- They have the same violations as entries of a dictionary. -/
theorem checkEntries (h : Twins m m' R) {key key' value value' : Ref} (keys : R key key')
    (values : R value value') (same : List.Forall₂ (SameField R) fields fields') :
    ShapeSchema.checkEntries m key value fields =
      ShapeSchema.checkEntries m' key' value' fields' := by
  induction same with
  | nil => rfl
  | @cons f f' _ _ head _ ih =>
    obtain ⟨k, v, check⟩ := f
    obtain ⟨k', v', check'⟩ := f'
    obtain ⟨hkey, -, agree⟩ := head
    dsimp only at hkey agree
    subst hkey
    rw [ShapeSchema.checkEntries, ShapeSchema.checkEntries, ih, (h.node keys).checkText,
      agree _ _ values]

/-- An alternative of one union is an alternative of the other. -/
theorem get?_alternatives {entries entries' : List (String × Ref)}
    (alike : List.Forall₂ (AlikeAlternatives R) entries entries') (tag : String) :
    (entries.lookup tag = none ∧ entries'.lookup tag = none) ∨
      ∃ a b, entries.lookup tag = some a ∧ entries'.lookup tag = some b ∧ R a b := by
  induction alike with
  | nil => exact .inl ⟨rfl, rfl⟩
  | @cons e e' _ _ head _ ih =>
    rw [Entries.lookup_cons, Entries.lookup_cons, head.1]
    split
    · exact .inr ⟨_, _, rfl, rfl, head.2⟩
    · exact ih

/-- They have the same violations as the one field of a union. -/
theorem checkTagged (same : List.Forall₂ (SameField R) fields fields')
    {alternatives alternatives' : OrderedMap Ref}
    (alike : List.Forall₂ (AlikeAlternatives R) alternatives.entries alternatives'.entries) :
    ShapeSchema.checkTagged fields alternatives =
      ShapeSchema.checkTagged fields' alternatives' := by
  have set : List.Forall₂ (SameField R) (fields.filter fun f => !f.2.1.isNull)
      (fields'.filter fun f => !f.2.1.isNull) := by
    induction same with
    | nil => exact .nil
    | cons head _ ih =>
      rw [List.filter_cons, List.filter_cons, head.2.1]
      split
      · exact .cons head ih
      · exact ih
  rw [ShapeSchema.checkTagged, ShapeSchema.checkTagged]
  generalize (fields.filter fun f => !f.2.1.isNull) = given at set ⊢
  generalize (fields'.filter fun f => !f.2.1.isNull) = given' at set ⊢
  -- The same fields are set in both, and they alone decide which case of the check applies.
  have count := set.length_eq
  cases set with
  | nil => rfl
  | @cons f f' _ _ head rest =>
    cases rest with
    | cons _ _ => exact congrArg (fun n => [Violation.here (.memberCount n)]) count
    | nil =>
      obtain ⟨tag, value, check⟩ := f
      obtain ⟨tag', value', check'⟩ := f'
      obtain ⟨htag, -, agree⟩ := head
      dsimp only at htag agree
      subst htag
      dsimp only [OrderedMap.get?]
      rcases get?_alternatives alike tag with ⟨unknown, unknown'⟩ | ⟨a, b, found, found', related⟩
      · rw [unknown, unknown']
      · rw [found, found']
        dsimp only
        rw [agree _ _ related]

end Checks

mutual

/-- Twins find the same violations in every value: by induction on the value, since every step into
a node is a step into the value. -/
theorem violations (h : Twins m m' R) :
    ∀ value : Json, SameCheck R (value.violations m) (value.violations m')
  | .string s => fun _ _ related => (h.node related).checkText s
  | .number n => fun a b related => by
    have alike := h.node related
    rw [Json.violations, Json.violations]
    dsimp only
    generalize m.node a = node at alike ⊢
    generalize m'.node b = node' at alike ⊢
    cases alike <;> rfl
  | .bool _ => fun a b related => by
    have alike := h.node related
    rw [Json.violations, Json.violations]
    dsimp only
    generalize m.node a = node at alike ⊢
    generalize m'.node b = node' at alike ⊢
    cases alike <;> rfl
  | .null => fun _ _ related => (h.node related).mismatch .null
  | .array items => fun a b related => by
    have checks := h.itemChecks items
    have alike := h.node related
    rw [Json.violations, Json.violations]
    dsimp only
    generalize m.node a = node at alike ⊢
    generalize m'.node b = node' at alike ⊢
    cases alike with
    | leaf leaf =>
      cases node with
      | array => cases leaf
      | _ => rfl
    | @array a b length element => exact congrArg _ (checkItems checks element 0)
    | object | dictionary | union => rfl
  | .object fields => fun a b related => by
    have checks := h.fieldChecks fields
    have alike := h.node related
    rw [Json.violations, Json.violations]
    dsimp only
    generalize m.node a = node at alike ⊢
    generalize m'.node b = node' at alike ⊢
    cases alike with
    | leaf leaf =>
      cases node with
      | object | dictionary | union => cases leaf
      | _ => rfl
    | array => rfl
    | object alike => exact checkMembers checks alike
    | dictionary keys values => exact h.checkEntries keys values checks
    | union alike => exact checkTagged checks alike

/-- The items of an array are checked alike. -/
theorem itemChecks (h : Twins m m' R) :
    ∀ items : List Json,
      List.Forall₂ (SameCheck R) (ShapeSchema.itemChecks m items) (ShapeSchema.itemChecks m' items)
  | [] => .nil
  | item :: items => .cons (h.violations item) (h.itemChecks items)

/-- The fields of an object are checked alike. -/
theorem fieldChecks (h : Twins m m' R) :
    ∀ fields : List (String × Json),
      List.Forall₂ (SameField R) (ShapeSchema.fieldChecks m fields)
        (ShapeSchema.fieldChecks m' fields)
  | [] => .nil
  | (_, value) :: fields => .cons ⟨rfl, rfl, h.violations value⟩ (h.fieldChecks fields)

end

end Twins

end ShapeSchema
