import ShapeSchema.Proofs.Compiler.Invariant
import ShapeSchema.Proofs.Compiler.Mirror

/-!
# `ShapeSchema.Proofs.Compiler.Layout`: every place is taken for something

A place that no id has was taken by a map without key, for the plain string that is its key. That
place comes right behind the place of the map, in every state of a session (`session_paired`), also
while the node of the map is still a forward node. So when nothing is pending, such a place is the
key of exactly one dictionary (`existsUnique_dictionary`).
-/

set_option autoImplicit false

namespace ShapeSchema

namespace Compiler

/-- Places without id and the maps that took them stand side by side.

- `owner`: a place that no id has is right behind that of an id whose shape has a slot for a plain
  string;
- `key`: the key of a dictionary has an id, or it is right behind the dictionary. -/
structure Paired (c : Compiler) : Prop where
  owner : ∀ i < c.nodes.size, ⟨i⟩ ∉ c.index.values → ∃ e ∈ c.index.entries, e.2.index + 1 = i ∧
    ∃ s, c.registry.get? e.1 = some s ∧ .plainString ∈ s.slots
  key : ∀ i key value, c.nodes[i]? = some (.dictionary key value) →
    key ∈ c.index.values ∨ key.index = i + 1

/-- Every place of a compiler that goes on to targets is an old one or one of the two new ones. -/
theorem getElem?_occupy {c : Compiler} {registry : Registry} {id : String} {shape : Shape} {i : Nat}
    {node : Node} (placed : (c.occupy registry id shape).nodes[i]? = some node) :
    c.nodes[i]? = some node ∨ i = c.nodes.size ∧ node = .forward id ∨
      i = c.nodes.size + 1 ∧ .plainString ∈ shape.slots ∧ node = .plainString := by
  -- The place of the forward node, with or without one for a plain string behind it.
  have forward (h : (c.nodes.push (.forward id))[i]? = some node) :
      c.nodes[i]? = some node ∨ i = c.nodes.size ∧ node = .forward id := by
    rw [Array.getElem?_push] at h
    split at h
    · rename_i last
      exact .inr ⟨last, (Option.some.inj h).symm⟩
    · exact .inl h
  rw [occupy_nodes] at placed
  split at placed
  · rename_i loose
    rw [Array.getElem?_push, Array.size_push] at placed
    split at placed
    · rename_i last
      exact .inr (.inr ⟨last, loose, (Option.some.inj placed).symm⟩)
    · exact (forward placed).imp_right .inl
  · exact (forward placed).imp_right .inl

/-- Every place is paired before any call. -/
theorem Paired.start (r : Registry) : (Compiler.start r).Paired where
  owner := by simp [Compiler.start]
  key := by simp [Compiler.start]

/-- Places stay paired while look-ups let the registry grow. -/
theorem paired_grow {c : Compiler} {registry : Registry} (h : c.Paired)
    (grown : c.registry.Grows registry) : Paired { c with registry } where
  owner i inside unindexed := by
    obtain ⟨e, he, next, s, held, loose⟩ := h.owner i inside unindexed
    exact ⟨e, he, next, s, grown.get? held, loose⟩
  key := h.key

/-- A map without key takes the place behind its own, so the two are paired at once. -/
theorem paired_occupy {c : Compiler} {registry : Registry} {id : String} {shape : Shape}
    (h : c.Paired) (unindexed : c.index.get? id = none) (held : registry.get? id = some shape)
    (grown : c.registry.Grows registry) : (c.occupy registry id shape).Paired := by
  have entries : (c.occupy registry id shape).index.entries =
      c.index.entries ++ [(id, ⟨c.nodes.size⟩)] := by
    rw [occupy_index]
    exact OrderedMap.entries_insert _ unindexed
  have values : (c.occupy registry id shape).index.values =
      c.index.values ++ [⟨c.nodes.size⟩] := by
    rw [OrderedMap.values, entries, List.map_append]
    rfl
  constructor
  · -- `owner`: an old place has its old owner, and the place for a plain string has the new id.
    intro i inside loose
    rw [values, List.mem_append, not_or] at loose
    rcases getElem?_occupy (Array.getElem?_eq_getElem inside) with old | ⟨rfl, -⟩ | ⟨rfl, slot, -⟩
    · obtain ⟨e, he, next, s, found, slot⟩ :=
        h.owner i (Array.getElem?_eq_some_iff.1 old).1 loose.1
      refine ⟨e, entries ▸ List.mem_append_left _ he, next, s, ?_, slot⟩
      rw [occupy_registry]
      exact grown.get? found
    · exact absurd (List.mem_singleton_self _) loose.2
    · refine ⟨(id, ⟨c.nodes.size⟩), entries ▸ List.mem_append_right _ (List.mem_singleton_self _),
        rfl, shape, ?_, slot⟩
      rw [occupy_registry]
      exact held
  · -- `key`: none of the new places holds a dictionary.
    intro i key value placed
    rcases getElem?_occupy placed with old | ⟨-, same⟩ | ⟨-, -, same⟩
    · exact (h.key i key value old).imp_left fun mem => values ▸ List.mem_append_left _ mem
    · cases same
    · cases same

/-- The node of a map with a key leads to the place of the key's id, and that of a map without key
to the place behind it. -/
theorem paired_complete {c : Compiler} {shape : Shape} {place : Ref} {refs : List Ref} {node : Node}
    {diagnostics : List Diagnostic} (h : c.Paired)
    (filled : List.Forall₂ (Fills c.nodes c.index) shape.slots refs)
    (behind : .plainString ∈ shape.slots → refs.head? = some ⟨place.index + 1⟩)
    (made : shape.node refs = .ok (node, diagnostics)) :
    (c.complete place node diagnostics).Paired := by
  have size : (c.complete place node diagnostics).nodes.size = c.nodes.size :=
    Array.size_setIfInBounds
  refine ⟨fun i inside => h.owner i (size ▸ inside), ?_⟩
  intro i key value placed
  -- Only a dictionary at the completed place is new. Its key is the first reference.
  by_cases same : place.index = i
  · have inside : i < c.nodes.size := size ▸ (Array.getElem?_eq_some_iff.1 placed).1
    rw [Compiler.complete, same, Array.getElem?_setIfInBounds_self_of_lt inside] at placed
    have hnode : node = .dictionary key value := Option.some.inj placed
    rw [hnode] at made
    have first := Shape.head?_of_dictionary made
    rcases shape.slots_cases with ⟨slots, -⟩ | ⟨slots, -⟩
    · -- The first slot names a shape, and the index has the reference for it.
      left
      rw [slots] at filled
      cases htargets : shape.targets with
      | nil =>
        rw [htargets] at filled
        cases filled
        cases first
      | cons target targets =>
        rw [htargets] at filled
        obtain _ | ⟨found, -⟩ := filled
        cases Option.some.inj first
        exact List.mem_map.2 ⟨_, OrderedMap.get?_eq_some_iff.1 found, rfl⟩
    · right
      -- The first slot is the plain string, whose place is right behind.
      rw [behind (slots ▸ List.mem_cons_self)] at first
      rw [← Option.some.inj first, same]
  · rw [Compiler.complete, Array.getElem?_setIfInBounds_ne same] at placed
    exact h.key i key value placed

/-- Places are paired after every step of a compilation. -/
theorem paired_invariant : Invariant fun _ c => c.Paired where
  grow := paired_grow
  occupy _ holds unindexed held grown _ := paired_occupy holds unindexed held grown
  complete _ holds _ _ _ filled behind made := paired_complete holds filled behind made

/-- Places are paired after any calls. -/
theorem session_paired (r : Registry) (ids : List String) : (session r ids).Paired :=
  paired_invariant.session (.start r) ids

/-- A place that no id has is the key of exactly one dictionary. -/
theorem Paired.existsUnique_dictionary {c : Compiler} (h : c.Paired) (sound : c.Sound []) {i : Nat}
    (inside : i < c.nodes.size) (unindexed : ⟨i⟩ ∉ c.index.values) :
    ∃! j : Nat, ∃ value, c.nodes[j]? = some (Node.dictionary ⟨i⟩ value) := by
  obtain ⟨e, he, next, s, held, loose⟩ := h.owner i inside unindexed
  obtain ⟨s', node, held', placed, image⟩ :=
    sound.mirrors e.1 e.2 (OrderedMap.get?_eq_some_iff.2 he)
  have same : s = s' := by
    rw [held] at held'
    exact Option.some.inj held'
  subst same
  -- The shape in front of the place is a map without key, and its node is finished.
  obtain ⟨hkind, hkey⟩ : s.kind = .map ∧ s.key = none := by
    rcases s.slots_cases with ⟨-, named⟩ | ⟨-, keyless⟩
    · exact absurd loose named
    · exact keyless
  unfold Shape.Image at image
  rw [hkind] at image
  dsimp only at image
  rw [hkey] at image
  obtain ⟨key, _, value, keyLoose, -, -, rfl⟩ := image
  have behind : key.index = e.2.index + 1 :=
    (h.key _ key value placed).resolve_left keyLoose.1
  have hi : key = ⟨i⟩ := by
    cases key
    exact congrArg Ref.mk (behind.trans next)
  subst hi
  refine ⟨e.2.index, ⟨value, placed⟩, ?_⟩
  rintro j ⟨value', placed'⟩
  have := (h.key j ⟨i⟩ value' placed').resolve_left unindexed
  dsimp only at this behind
  omega

end Compiler

end ShapeSchema
