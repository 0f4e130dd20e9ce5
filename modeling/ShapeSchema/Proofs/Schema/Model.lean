import ShapeSchema.Proofs.Compiler.Mirror
import ShapeSchema.Proofs.Schema.Twin

/-!
# `ShapeSchema.Proofs.Schema.Model`: what the finished model inherits

The invariant of the arena, read off in the words of the model that compilation leaves: an indexed
id and its reference determine each other (`Sound.shapeId?`), a loose reference is a plain string
without a shape, and no node leads out of the arena. `CompiledModel.WellFormed` names what the
proofs about schemas need of a model, and `session_wellFormed` says that every session gives it.
-/

set_option autoImplicit false

namespace ShapeSchema

/-- A model that holds together: every node that leads to others belongs to a shape, what it leads
to stands in the arena, and a pattern is what its source compiles to. -/
structure CompiledModel.WellFormed (m : CompiledModel) : Prop where
  named : ∀ ref, (m.node ref).isAggregate = true → (m.shapeId? ref).isSome = true
  closed : ∀ ref, ∀ child ∈ (m.node ref).children, child.index < m.nodes.size
  compiled : ∀ ref pattern length format, m.node ref = .string (some pattern) length format →
    Regex.compile pattern.source = .ok pattern

/-- The node of a place in the arena. -/
theorem CompiledModel.node_of_getElem? {m : CompiledModel} {ref : Ref} {node : Node}
    (placed : m.nodes[ref.index]? = some node) : m.node ref = node := by
  rw [CompiledModel.node, placed, Option.getD_some]

/-- Outside the arena there is only the empty node. -/
theorem CompiledModel.node_of_size_le {m : CompiledModel} {ref : Ref}
    (outside : m.nodes.size ≤ ref.index) : m.node ref = .empty := by
  rw [CompiledModel.node, Array.getElem?_eq_none outside, Option.getD_none]

/-- Joining a list with related lists gives related lists. -/
theorem forall₂_zipWith_zipWith {α β γ : Type} {R : β → β → Prop} {S : γ → γ → Prop}
    {f : α → β → γ} (step : ∀ a b b', R b b' → S (f a b) (f a b')) {bs bs' : List β}
    (h : List.Forall₂ R bs bs') (as : List α) :
    List.Forall₂ S (List.zipWith f as bs) (List.zipWith f as bs') := by
  induction h generalizing as with
  | nil => simp
  | cons head _ ih =>
    cases as with
    | nil => exact .nil
    | cons a as => exact .cons (step a _ _ head) (ih as)

/-- A string has no references. -/
theorem leaf_of_stringNode {s : Shape} {node : Node} {diagnostics : List Diagnostic}
    (h : s.stringNode = .ok (node, diagnostics)) : node.isAggregate = false := by
  have table := image_of_stringNode h
  split at table
  · rw [table]
    rfl
  · obtain ⟨_, -, rfl⟩ := table
    rfl

/-- A shape gives nodes that are alike when it is given references that are related. -/
theorem Shape.node_alike {R : Ref → Ref → Prop} {s : Shape} {refs refs' : List Ref} {n n' : Node}
    {d d' : List Diagnostic} (related : List.Forall₂ R refs refs') (h : s.node refs = .ok (n, d))
    (h' : s.node refs' = .ok (n', d')) : n.Alike R n' := by
  unfold Shape.node at h h'
  -- Kind by kind: names, constraints and order come from the shape, which is one and the same.
  cases hkind : s.kind with
  | record | resource =>
    rw [hkind] at h h'
    cases h
    cases h'
    exact .object (forall₂_zipWith_zipWith (fun _ _ _ step => ⟨rfl, rfl, step⟩) related _)
  | union =>
    rw [hkind] at h h'
    cases h
    cases h'
    exact .union (forall₂_zipWith_zipWith (fun _ _ _ step => ⟨rfl, step⟩) related _)
  | service | operation | unsupported | boolean | timestamp | blob | enum =>
    rw [hkind] at h h'
    cases h
    cases h'
    exact .leaf rfl
  | string | document =>
    rw [hkind] at h h'
    dsimp only at h h'
    rw [h] at h'
    cases h'
    exact .leaf (leaf_of_stringNode h)
  | byte | short | integer | long | bigInteger | float | double | bigDecimal =>
    rw [hkind] at h h'
    dsimp only at h h'
    rw [h] at h'
    cases h'
    obtain ⟨range, -, rfl⟩ := image_of_numberNode h
    exact .leaf rfl
  | list | set =>
    rw [hkind] at h h'
    cases related with
    | nil => cases h
    | cons element _ =>
      obtain ⟨length, hlength, hnode⟩ := except_bind_ok h
      obtain ⟨length', hlength', hnode'⟩ := except_bind_ok h'
      -- Both lengths are read off the same traits.
      rw [hlength] at hlength'
      cases hlength'
      cases hnode
      cases hnode'
      exact .array element
  | map =>
    rw [hkind] at h h'
    cases related with
    | nil => cases h
    | cons key rest =>
      cases rest with
      | nil => cases h
      | cons value _ =>
        cases h
        cases h'
        exact .dictionary key value

/-- Every reference in the node of a shape is one of those it was made of. -/
theorem Shape.mem_of_mem_children {s : Shape} {refs : List Ref} {node : Node}
    {diagnostics : List Diagnostic} (h : s.node refs = .ok (node, diagnostics)) {child : Ref}
    (inside : child ∈ node.children) : child ∈ refs := by
  -- A node is alike to itself under any relation that its references have to themselves.
  have given : List.Forall₂ (fun ref _ => ref ∈ refs) refs refs :=
    List.forall₂_same.2 fun _ mem => mem
  obtain ⟨_, -, mem⟩ := exists_of_forall₂ (Shape.node_alike given h h).children inside
  exact mem

/-! ### Patterns -/

/-- A compiled pattern keeps its source. -/
theorem Regex.source_of_compile {source : String} {pattern : Regex}
    (h : Regex.compile source = .ok pattern) : pattern.source = source := by
  obtain ⟨ast, -, h⟩ := except_bind_ok h
  obtain ⟨core, -, h⟩ := except_bind_ok h
  split at h
  · cases h
    rfl
  · cases h

/-- A pattern that a constraint holds was compiled from its source. -/
theorem compile_of_stringConstraint {id : String} {traits : List Trait} {c : StringConstraint}
    {pattern : Regex} (h : stringConstraint id traits = .ok c) (held : c.pattern = some pattern) :
    Regex.compile pattern.source = .ok pattern := by
  obtain ⟨length, -, h⟩ := except_bind_ok h
  split at h
  · cases h
    cases held
  · rename_i source _
    split at h
    · rename_i compiled
      cases h
      cases held
      rw [Regex.source_of_compile compiled]
      exact compiled
    · cases h
      cases held

/-- The pattern of a node made from a shape is what its source compiles to. -/
theorem Shape.compile_of_node {s : Shape} {refs : List Ref} {diagnostics : List Diagnostic}
    {pattern : Regex} {length : Length} {format : Option Format}
    (h : s.node refs = .ok (.string (some pattern) length format, diagnostics)) :
    Regex.compile pattern.source = .ok pattern := by
  -- The constraint of a text is the only one that holds a pattern.
  generalize held : some pattern = kept at h
  cases Shape.gives_of_node h with
  | text kind unlisted constraint => exact compile_of_stringConstraint constraint held.symm
  | timestamp | blob => cases held

namespace Compiler.Sound

variable {c : Compiler}

/-- The place of an indexed id belongs to that id. -/
theorem shapeId? (h : c.Sound []) {id : String} {ref : Ref} (indexed : c.index.get? id = some ref) :
    c.finish.shapeId? ref = some id := by
  have entry : (id, ref) ∈ c.index.entries := OrderedMap.get?_eq_some_iff.1 indexed
  rw [CompiledModel.shapeId?, Option.map_eq_some_iff]
  cases found : c.finish.index.entries.find? fun e => e.2 == ref with
  | none =>
    have other := List.find?_eq_none.1 found _ entry
    simp at other
  | some e =>
    have held : e ∈ c.index.entries := List.mem_of_find?_eq_some found
    have same : e.2 = ref := by simpa using List.find?_some found
    -- The look-up finds some entry with the reference, and only one has it.
    have unique : e = (id, ref) := h.place_unique held entry (congrArg Ref.index same)
    exact ⟨e, rfl, congrArg Prod.fst unique⟩

/-- The node of an indexed id, made from the shape of the id. -/
theorem built (h : c.Sound []) {id : String} {ref : Ref} (indexed : c.index.get? id = some ref) :
    ∃ shape, c.registry.get? id = some shape ∧
      Built c.nodes c.index shape (c.finish.node ref) := by
  obtain ⟨shape, node, held, -, placed, made⟩ :=
    h.finished (id, ref) (OrderedMap.get?_eq_some_iff.1 indexed) List.not_mem_nil
  rw [CompiledModel.node_of_getElem? (m := c.finish) placed]
  exact ⟨shape, held, made⟩

/-- The reference of a slot leads into the arena. -/
theorem inside_of_fills (h : c.Sound []) {slot : Slot} {ref : Ref}
    (filled : Fills c.nodes c.index slot ref) : ref.index < c.nodes.size := by
  cases slot with
  | shape id => exact h.inside (id, ref) (OrderedMap.get?_eq_some_iff.1 filled)
  | plainString => exact (Array.getElem?_eq_some_iff.1 filled.2).1

/-- A node that is there belongs to an indexed id, or it is a plain string or empty. -/
theorem node_cases (h : c.Sound []) (ref : Ref) :
    (∃ id, c.index.get? id = some ref) ∨ c.finish.node ref = .plainString ∨
      c.finish.node ref = .empty := by
  by_cases inside : ref.index < c.nodes.size
  · rcases h.taken ref.index inside with indexed | plain
    · obtain ⟨e, he, href⟩ := List.mem_map.1 indexed
      have held : (e.1, ref) ∈ c.index.entries := by
        rw [show ref = e.2 from href.symm]
        exact he
      exact .inl ⟨e.1, OrderedMap.get?_eq_some_iff.2 held⟩
    · exact .inr (.inl (CompiledModel.node_of_getElem? (m := c.finish) plain))
  · exact .inr (.inr (CompiledModel.node_of_size_le (m := c.finish) (Nat.le_of_not_lt inside)))

/-- A sound arena with nothing pending makes a well-formed model. -/
theorem wellFormed (h : c.Sound []) : c.finish.WellFormed where
  named ref aggregate := by
    -- A place has an id, or holds a plain string, or is outside the arena: only the first has
    -- parts.
    rcases h.node_cases ref with ⟨id, indexed⟩ | plain | empty
    · rw [h.shapeId? indexed]
      rfl
    · rw [plain] at aggregate
      cases aggregate
    · rw [empty] at aggregate
      cases aggregate
  closed ref child mem := by
    rcases h.node_cases ref with ⟨id, indexed⟩ | plain | empty
    · obtain ⟨shape, -, refs, diagnostics, filled, hnode⟩ := h.built indexed
      obtain ⟨slot, -, slotFilled⟩ :=
        exists_of_forall₂ filled.flip (Shape.mem_of_mem_children hnode mem)
      exact h.inside_of_fills slotFilled
    · rw [plain] at mem
      cases mem
    · rw [empty] at mem
      cases mem
  compiled ref pattern length format hnode := by
    rcases h.node_cases ref with ⟨id, indexed⟩ | plain | empty
    · obtain ⟨shape, -, refs, diagnostics, -, made⟩ := h.built indexed
      rw [hnode] at made
      exact Shape.compile_of_node made
    · rw [plain] at hnode
      cases hnode
    · rw [empty] at hnode
      cases hnode

end Compiler.Sound

/-- The model of every session is well-formed. -/
theorem Compiler.session_wellFormed (r : Registry) (ids : List String) :
    (session r ids).finish.WellFormed :=
  (session_sound r ids).wellFormed

/-! ### What a document writes for a child -/

namespace CompiledModel

variable {m : CompiledModel}

/-- A leaf is written out in the place of a child. -/
theorem childSchema_of_leaf {ref : Ref} (leaf : (m.node ref).isAggregate = false) :
    m.childSchema ref = .object (m.node ref).leafFields := by
  rw [childSchema, definedShape?, leaf]
  rfl

/-- The schema of a leaf does not depend on the model around it. -/
theorem schemaFields_of_leaf {ref : Ref} (leaf : (m.node ref).isAggregate = false) :
    m.schemaFields ref = (m.node ref).leafFields := by
  rw [schemaFields]
  cases hnode : m.node ref with
  | array | object | dictionary | union =>
    rw [hnode] at leaf
    cases leaf
  | _ => rfl

/-- The walk from the root meets a child that leads to others. -/
theorem transGen_or_leaf (wellFormed : m.WellFormed) {root ref child : Ref}
    (met : Relation.ReflTransGen m.Leads root ref) (mem : child ∈ (m.node ref).children) :
    Relation.TransGen m.Leads root child ∨ (m.node child).isAggregate = false := by
  cases aggregate : (m.node child).isAggregate with
  | false => exact .inr rfl
  | true =>
    have defined : (m.definedShape? child).isSome = true := by
      rw [definedShape?, if_pos aggregate]
      exact wellFormed.named child aggregate
    exact .inl (.tail' met (List.mem_filter.2 ⟨mem, defined⟩))

end CompiledModel

/-- A loose reference is a plain string that belongs to no shape. -/
theorem Loose.finish {c : Compiler} {ref : Ref} (loose : Loose c.nodes c.index ref) :
    c.finish.node ref = .plainString ∧ c.finish.shapeId? ref = none :=
  ⟨CompiledModel.node_of_getElem? loose.2, CompiledModel.shapeId?_eq_none loose.1⟩

end ShapeSchema
