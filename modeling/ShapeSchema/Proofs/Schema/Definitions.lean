import Mathlib.Data.List.Nodup
import Mathlib.Logic.Relation
import ShapeSchema.Proofs.OrderedMap
import ShapeSchema.Schema.Emission

/-!
# `ShapeSchema.Proofs.Schema.Definitions`: which definitions a schema has

`CompiledModel.reach` walks the references that are pending and takes each out of those that
remain, so it ends on cycles too. It meets exactly the references that a chain of `Leads` steps
leads to (`mem_reach_iff`), each once (`nodup_reach`).

So the definitions of a standalone schema are a set, and only sorting gives them an order
(`mem_definitions_iff`, `definitions_eq_of_mem_iff`). In which order the walk met them does not
matter.
-/

set_option autoImplicit false

namespace ShapeSchema.CompiledModel

variable {m : CompiledModel}

/-! ### The shape of a reference -/

/-- A reference belongs to a shape only if the index has it for that shape. -/
theorem get?_of_shapeId? {ref : Ref} {id : String} (h : m.shapeId? ref = some id) :
    m.get? id = some ref := by
  obtain ⟨e, found, rfl⟩ := Option.map_eq_some_iff.1 h
  have hmem := List.mem_of_find?_eq_some found
  have href : e.2 = ref := by simpa using List.find?_some found
  rw [get?, OrderedMap.get?_eq_some_iff, ← href]
  exact hmem

/-- A reference that the index does not have belongs to no shape. -/
theorem shapeId?_eq_none {ref : Ref} (h : ref ∉ m.index.values) : m.shapeId? ref = none := by
  rw [shapeId?, Option.map_eq_none_iff, List.find?_eq_none]
  intro e he heq
  exact h (List.mem_map.2 ⟨e, he, by simpa using heq⟩)

/-- A reference with a definition leads into the arena, to an aggregate. -/
theorem mem_refs_of_definedShape? {ref : Ref} (h : (m.definedShape? ref).isSome) :
    ref ∈ m.refs := by
  have inside : ref.index < m.nodes.size := by
    by_contra outside
    -- Outside the arena stands the empty node, which has no definition.
    have beyond : m.node ref = .empty := by
      rw [node, Array.getElem?_eq_none (Nat.le_of_not_lt outside)]
      rfl
    rw [definedShape?, beyond] at h
    cases h
  exact List.mem_map.2 ⟨ref.index, List.mem_range.2 inside, rfl⟩

/-! ### The walk -/

/-- One step of the walk: the first node refers to the definition of the second. -/
def Leads (m : CompiledModel) (ref ref' : Ref) : Prop := ref' ∈ m.definedChildren ref

/-- One step down: the second node is a child of the first, with a definition or without. -/
def Refers (m : CompiledModel) (ref child : Ref) : Prop := child ∈ (m.node ref).children

/-- A walk comes only to what it may still come to. -/
theorem reach_subset (remaining pending : List Ref) :
    ∀ x ∈ m.reach remaining pending, x ∈ remaining := by
  fun_induction m.reach remaining pending with
  | case1 => simp
  | case2 remaining ref pending present ih =>
    intro x hx
    rcases List.mem_cons.1 hx with rfl | later
    · exact present
    · exact List.mem_of_mem_erase (ih x later)
  | case3 remaining ref pending absent ih => exact ih

/-- Every reference is met at most once, because it is gone when it has been met. -/
theorem nodup_reach {remaining pending : List Ref} (distinct : remaining.Nodup) :
    (m.reach remaining pending).Nodup := by
  fun_induction m.reach remaining pending with
  | case1 => exact List.nodup_nil
  | case2 remaining ref pending present ih =>
    rw [List.nodup_cons]
    refine ⟨?_, ih (distinct.erase ref)⟩
    -- The walk goes on with what remains, and `ref` is no longer among that.
    intro again
    exact ((distinct.mem_erase_iff).1 (reach_subset _ _ _ again)).1 rfl
  | case3 remaining ref pending absent ih => exact ih distinct

/-- What is met comes from something pending. -/
theorem reach_sound (remaining pending : List Ref) :
    ∀ x ∈ m.reach remaining pending, ∃ p ∈ pending, Relation.ReflTransGen m.Leads p x := by
  -- The cases of the search: nothing is pending, a new reference, one that was seen.
  fun_induction m.reach remaining pending with
  | case1 => simp
  | case2 remaining ref pending present ih =>
    intro x hx
    rcases List.mem_cons.1 hx with rfl | later
    · exact ⟨x, List.mem_cons_self, .refl⟩
    · obtain ⟨p, hp, chain⟩ := ih x later
      rcases List.mem_append.1 hp with child | old
      · exact ⟨ref, List.mem_cons_self, .head child chain⟩
      · exact ⟨p, List.mem_cons_of_mem _ old, chain⟩
  | case3 remaining ref pending absent ih =>
    intro x hx
    obtain ⟨p, hp, chain⟩ := ih x hx
    exact ⟨p, List.mem_cons_of_mem _ hp, chain⟩

/-- What is pending and remains is met, and with a reference everything it leads to that remains.
-/
theorem reach_complete (remaining pending : List Ref) :
    (∀ p ∈ pending, p ∈ remaining → p ∈ m.reach remaining pending) ∧
      ∀ x ∈ m.reach remaining pending, ∀ y ∈ m.definedChildren x, y ∈ remaining →
        y ∈ m.reach remaining pending := by
  fun_induction m.reach remaining pending with
  | case1 => simp
  | case2 remaining ref pending present ih =>
    obtain ⟨starts, closed⟩ := ih
    -- A reference other than `ref` still remains when `ref` has been taken out.
    have later : ∀ y ∈ remaining, y ≠ ref → y ∈ remaining.erase ref := fun y hy hne =>
      (List.mem_erase_of_ne hne).2 hy
    constructor
    · intro p hp hremaining
      by_cases same : p = ref
      · exact same ▸ List.mem_cons_self
      · have old := (List.mem_cons.1 hp).resolve_left same
        exact List.mem_cons_of_mem _
          (starts p (List.mem_append_right _ old) (later p hremaining same))
    · intro x hx y hy hremaining
      by_cases same : y = ref
      · exact same ▸ List.mem_cons_self
      · refine List.mem_cons_of_mem _ ?_
        rcases List.mem_cons.1 hx with rfl | hx
        · exact starts y (List.mem_append_left _ hy) (later y hremaining same)
        · exact closed x hx y hy (later y hremaining same)
  | case3 remaining ref pending absent ih =>
    obtain ⟨starts, closed⟩ := ih
    refine ⟨?_, closed⟩
    intro p hp hremaining
    rcases List.mem_cons.1 hp with rfl | old
    · exact absurd hremaining absent
    · exact starts p old hremaining

/-- The walk from a node meets exactly what a chain of one or more steps leads to. -/
theorem mem_reach_iff {root x : Ref} :
    x ∈ m.reach m.refs (m.definedChildren root) ↔ Relation.TransGen m.Leads root x := by
  obtain ⟨starts, closed⟩ := reach_complete (m := m) m.refs (m.definedChildren root)
  have known : ∀ {y z : Ref}, m.Leads y z → z ∈ m.refs := fun step =>
    mem_refs_of_definedShape? (List.mem_filter.1 step).2
  constructor
  · intro hx
    obtain ⟨p, hp, chain⟩ := reach_sound _ _ x hx
    exact .head' hp chain
  · -- Along the chain every node has a definition, so it still remains when the walk comes to it.
    intro chain
    induction chain with
    | single step => exact starts _ step (known step)
    | tail _ step ih => exact closed _ ih _ step (known step)

/-- A step of the walk goes to a node with a definition. -/
theorem definedShape?_of_transGen {root ref : Ref} (chain : Relation.TransGen m.Leads root ref) :
    (m.definedShape? ref).isSome = true := by
  obtain ⟨_, -, step⟩ := Relation.TransGen.tail'_iff.1 chain
  exact (List.mem_filter.1 step).2

/-! ### The definitions -/

/-- A definition is that of a reference which a chain of steps leads to. -/
theorem mem_definitions_iff {root : Ref} {d : String × Json} :
    d ∈ m.definitions root ↔
      ∃ ref, Relation.TransGen m.Leads root ref ∧ m.definition? ref = some d := by
  rw [definitions, List.mem_mergeSort, List.mem_filterMap]
  simp only [mem_reach_iff]

/-- No shape is defined twice. -/
theorem nodup_definitions (root : Ref) : ((m.definitions root).map Prod.fst).Nodup := by
  have keys : (((m.reach m.refs (m.definedChildren root)).filterMap m.definition?).map Prod.fst) =
      (m.reach m.refs (m.definedChildren root)).filterMap m.shapeId? := by
    rw [List.map_filterMap]
    congr 1
    funext ref
    rw [definition?, Option.map_map]
    exact Option.map_id'
  have distinct : m.refs.Nodup :=
    List.nodup_range.map fun _ _ h => congrArg Ref.index h
  rw [definitions, ((List.mergeSort_perm _ _).map Prod.fst).nodup_iff, keys]
  -- The index has one reference for an id, so different references have different ids.
  refine (nodup_reach distinct).filterMap ?_
  intro ref ref' id h h'
  have found := get?_of_shapeId? h
  rw [get?_of_shapeId? h'] at found
  exact (Option.some.inj found).symm

/-- Definitions stand in the order of their ids. -/
theorem pairwise_definitions (root : Ref) :
    (m.definitions root).Pairwise fun a b => a.1 ≤ b.1 := by
  have sorted : (m.definitions root).Pairwise fun a b => decide (a.1 ≤ b.1) = true := by
    rw [definitions]
    apply List.pairwise_mergeSort
    · intro a b c hab hbc
      rw [decide_eq_true_iff] at hab hbc ⊢
      exact String.le_trans hab hbc
    · intro a b
      rw [Bool.or_eq_true, decide_eq_true_iff, decide_eq_true_iff]
      exact String.le_total a.1 b.1
  exact sorted.imp fun h => decide_eq_true_iff.1 h

/-- Models whose nodes need the same definitions write them alike: the sorted list is determined by
what is in it. -/
theorem definitions_eq_of_mem_iff {m' : CompiledModel} {root root' : Ref}
    (same : ∀ d, d ∈ m.definitions root ↔ d ∈ m'.definitions root') :
    m.definitions root = m'.definitions root' := by
  have distinct := (nodup_definitions (m := m) root).of_map
  have distinct' := (nodup_definitions (m := m') root').of_map
  have perm := (List.perm_ext_iff_of_nodup distinct distinct').2 same
  refine perm.eq_of_pairwise ?_ (pairwise_definitions root) (pairwise_definitions root')
  intro a b ha hb hab hba
  -- Two definitions with one id are one definition.
  have key : a.1 = b.1 := String.le_antisymm hab hba
  exact List.inj_on_of_nodup_map (nodup_definitions root) ha ((same b).2 hb) key

end ShapeSchema.CompiledModel
