import Mathlib.Data.List.Forall2
import Mathlib.Data.List.Nodup
import ShapeSchema.Proofs.Compiler.Growth

/-!
# `ShapeSchema.Proofs.Compiler.Arena`: the invariant of the arena

While a shape is being compiled its place holds a forward node, and nested compilations already use
the reference of that place. So the invariant has a parameter: `Sound pending c` says that every
indexed id outside `pending` has its finished node, made of the references that its slots have in
the index as it is now. It also says that index and arena fit together: references lead inside the
arena, in ascending order, and a place that no id has holds a plain string.

Taking a place adds an id to `pending` (`Sound.enter`), and putting the node there takes it out
again (`Sound.complete`). Between the two, filling the slots keeps the invariant
(`fillSlots_sound`), because a grown compiler still has the references it had (`Fills.grows`).
`compileWithin_sound` is the induction that closes the circle.
-/

set_option autoImplicit false

namespace ShapeSchema

/-! ### Nodes made of references -/

section Built

variable (nodes : Array Node) (index : OrderedMap Ref)

/-- A reference to a plain string that belongs to no shape. -/
def Loose (ref : Ref) : Prop :=
  ref ∉ index.values ∧ nodes[ref.index]? = some .plainString

/-- A slot has this reference: the one that the index has for the shape, or a loose one. -/
def Fills : Slot → Ref → Prop
  | .shape id, ref => index.get? id = some ref
  | .plainString, ref => Loose nodes index ref

/-- The node is made from the shape, each slot having its reference. -/
def Built (s : Shape) (node : Node) : Prop :=
  ∃ refs diagnostics, List.Forall₂ (Fills nodes index) s.slots refs ∧
    s.node refs = .ok (node, diagnostics)

end Built

namespace Compiler

/-- A reference of a slot stays the reference of that slot while the compiler grows. -/
theorem Fills.grows {c c' : Compiler} (h : c.Grows c') {slot : Slot} {ref : Ref}
    (filled : Fills c.nodes c.index slot ref) : Fills c'.nodes c'.index slot ref := by
  cases slot with
  | shape id => exact h.get? filled
  | plainString =>
    obtain ⟨unindexed, plain⟩ := filled
    have inside : ref.index < c.nodes.size := (Array.getElem?_eq_some_iff.1 plain).1
    -- Ids indexed since then have places behind the old end, and this place lies before it.
    refine ⟨?_, (h.node inside).trans plain⟩
    obtain ⟨added, hadded, fresh⟩ := h.index
    intro indexed
    rw [OrderedMap.values, hadded, List.map_append, List.mem_append] at indexed
    rcases indexed with old | new
    · exact unindexed old
    · obtain ⟨e, he, rfl⟩ := List.mem_map.1 new
      exact absurd inside (Nat.not_lt.2 (fresh e he))

/-- A node that was made of the references of its slots still is while the compiler grows. -/
theorem Built.grows {c c' : Compiler} (h : c.Grows c') {s : Shape} {node : Node}
    (built : Built c.nodes c.index s node) : Built c'.nodes c'.index s node := by
  obtain ⟨refs, diagnostics, filled, hnode⟩ := built
  exact ⟨refs, diagnostics, filled.imp fun _ _ => Fills.grows h, hnode⟩

/-- Putting a node into the place of an indexed shape leaves the references of slots alone. -/
theorem Fills.complete {c : Compiler} {place : Ref} (indexed : place ∈ c.index.values) (node : Node)
    (diagnostics : List Diagnostic) {slot : Slot} {ref : Ref}
    (filled : Fills c.nodes c.index slot ref) :
    Fills (c.complete place node diagnostics).nodes c.index slot ref := by
  cases slot with
  | shape id => exact filled
  | plainString =>
    obtain ⟨unindexed, plain⟩ := filled
    refine ⟨unindexed, ?_⟩
    -- A loose place is not indexed, so it is not the one that is written to.
    have other : place.index ≠ ref.index := by
      intro same
      have : place = ref := by cases place; cases ref; cases same; rfl
      exact unindexed (this ▸ indexed)
    rw [Compiler.complete, Array.getElem?_setIfInBounds_ne other]
    exact plain

/-- It still is when another node is put into its place. -/
theorem Built.complete {c : Compiler} {place : Ref} (indexed : place ∈ c.index.values) (node : Node)
    (diagnostics : List Diagnostic) {s : Shape} {n : Node} (built : Built c.nodes c.index s n) :
    Built (c.complete place node diagnostics).nodes c.index s n := by
  obtain ⟨refs, ds, filled, hnode⟩ := built
  exact ⟨refs, ds, filled.imp fun _ _ => Fills.complete indexed node diagnostics, hnode⟩

/-! ### The invariant -/

/-- The arena and the index of a compiler fit together, and every indexed id outside `pending` has
its node.

- `inside`: references lead into the arena;
- `ascending`: ids are indexed in the order of their places, so no two share one;
- `taken`: a place that no id has holds a plain string;
- `finished`: the registry holds the shape of an id that is not pending, and the node at its place
  is made from that shape. -/
structure Sound (pending : List String) (c : Compiler) : Prop where
  inside : ∀ e ∈ c.index.entries, e.2.index < c.nodes.size
  ascending : c.index.entries.Pairwise fun a b => a.2.index < b.2.index
  taken : ∀ i < c.nodes.size, ⟨i⟩ ∈ c.index.values ∨ c.nodes[i]? = some .plainString
  finished : ∀ e ∈ c.index.entries, e.1 ∉ pending →
    ∃ shape node, c.registry.get? e.1 = some shape ∧ shape.kind.isSupported = true ∧
      c.nodes[e.2.index]? = some node ∧ Built c.nodes c.index shape node

namespace Sound

variable {pending : List String} {c : Compiler}

/-- A compiler without nodes. -/
theorem start (r : Registry) : Sound [] (Compiler.start r) where
  inside := by simp [Compiler.start]
  ascending := List.Pairwise.nil
  taken := by simp [Compiler.start]
  finished := by simp [Compiler.start]

/-- Ids that share a place are the same. -/
theorem place_unique (h : c.Sound pending) {e e' : String × Ref} (he : e ∈ c.index.entries)
    (he' : e' ∈ c.index.entries) (same : e.2.index = e'.2.index) : e = e' := by
  have distinct : (c.index.entries.map fun e => e.2.index).Nodup :=
    List.pairwise_map.2 (h.ascending.imp Nat.ne_of_lt)
  exact List.inj_on_of_nodup_map distinct he he' same

/-- A compilation that failed has only let the registry grow. -/
theorem of_registry (h : c.Sound pending) {registry : Registry}
    (grown : c.registry.Grows registry) : Sound pending { c with registry } where
  inside := h.inside
  ascending := h.ascending
  taken := h.taken
  finished e he hpending := by
    obtain ⟨shape, node, held, rest⟩ := h.finished e he hpending
    exact ⟨shape, node, grown.get? held, rest⟩

/-- Finished nodes stay finished while the compiler grows. -/
theorem finished_grows (h : c.Sound pending) {c' : Compiler} (grown : c.Grows c')
    {e : String × Ref} (he : e ∈ c.index.entries) (hpending : e.1 ∉ pending) :
    ∃ shape node, c'.registry.get? e.1 = some shape ∧ shape.kind.isSupported = true ∧
      c'.nodes[e.2.index]? = some node ∧ Built c'.nodes c'.index shape node := by
  obtain ⟨shape, node, held, supported, placed, built⟩ := h.finished e he hpending
  exact ⟨shape, node, grown.registry.get? held, supported,
    (grown.node (h.inside e he)).trans placed, Built.grows grown built⟩

/-- A place for a plain string. -/
theorem push_plainString (h : c.Sound pending) : Sound pending (c.push .plainString).2 where
  inside e he := by
    have := h.inside e he
    simp only [Compiler.push, Array.size_push]
    omega
  ascending := h.ascending
  taken i hi := by
    simp only [Compiler.push, Array.size_push] at hi
    by_cases old : i < c.nodes.size
    · rw [(Grows.push c .plainString).node old]
      exact h.taken i old
    · have last : i = c.nodes.size := by omega
      right
      rw [last, Compiler.push, Array.getElem?_push_size]
  finished _ he hpending := h.finished_grows (Grows.push c .plainString) he hpending

/-- Taking a place makes the id pending. -/
theorem enter (h : c.Sound pending) {id : String} {registry : Registry}
    (unindexed : c.index.get? id = none) (grown : c.registry.Grows registry) :
    Sound (id :: pending) (c.enter registry id) := by
  have entries : (c.enter registry id).index.entries = c.index.entries ++ [(id, ⟨c.nodes.size⟩)] :=
    OrderedMap.entries_insert _ unindexed
  refine ⟨?_, ?_, ?_, ?_⟩
  · -- `inside`: the new place is the one behind all others.
    intro e he
    rw [entries, List.mem_append, List.mem_singleton] at he
    rw [enter_nodes, Array.size_push]
    rcases he with old | rfl
    · have := h.inside e old
      omega
    · exact Nat.lt_succ_self _
  · -- `ascending`: the new place is the last one.
    rw [entries, List.pairwise_append]
    refine ⟨h.ascending, List.pairwise_singleton _ _, ?_⟩
    intro e he e' he'
    rw [List.mem_singleton.1 he']
    exact h.inside e he
  · -- `taken`: the new place has the id, and the places before it are as they were.
    intro i hi
    rw [enter_nodes, Array.size_push] at hi
    rw [OrderedMap.values, entries, List.map_append, List.mem_append]
    by_cases old : i < c.nodes.size
    · rw [(Grows.enter unindexed grown).node old]
      exact (h.taken i old).imp_left .inl
    · have last : i = c.nodes.size := by omega
      left
      right
      rw [last]
      exact List.mem_singleton_self _
  · -- `finished`: nothing is owed for the id itself, since it is pending now.
    intro e he hpending
    rw [entries, List.mem_append, List.mem_singleton] at he
    rcases he with old | rfl
    · exact h.finished_grows (Grows.enter unindexed grown) old
        fun mem => hpending (List.mem_cons_of_mem _ mem)
    · exact absurd List.mem_cons_self hpending

/-- Putting the node of a shape into its place settles the id. -/
theorem complete {id : String} (h : c.Sound (id :: pending)) {ref : Ref} {shape : Shape}
    {node : Node} (diagnostics : List Diagnostic) (indexed : c.index.get? id = some ref)
    (held : c.registry.get? id = some shape) (supported : shape.kind.isSupported = true)
    (built : Built c.nodes c.index shape node) :
    Sound pending (c.complete ref node diagnostics) := by
  have entry : (id, ref) ∈ c.index.entries := OrderedMap.get?_eq_some_iff.1 indexed
  have value : ref ∈ c.index.values := List.mem_map.2 ⟨_, entry, rfl⟩
  have size : (c.complete ref node diagnostics).nodes.size = c.nodes.size :=
    Array.size_setIfInBounds
  refine ⟨fun e he => size ▸ h.inside e he, h.ascending, ?_, ?_⟩
  · -- `taken`: a place other than that of the node is as it was.
    intro i hi
    rw [size] at hi
    by_cases same : ref.index = i
    · exact .inl (same ▸ value)
    · rw [Compiler.complete, Array.getElem?_setIfInBounds_ne same]
      exact h.taken i hi
  · intro e he hpending
    by_cases same : e.1 = id
    · -- The entry of the id itself: its place now holds the node.
      have : e = (id, ref) := by
        have found : c.index.get? e.1 = some e.2 := OrderedMap.get?_eq_some_iff.2 he
        rw [same, indexed] at found
        exact Prod.ext same (Option.some.inj found).symm
      subst this
      refine ⟨shape, node, held, supported, ?_, Built.complete value node diagnostics built⟩
      exact Array.getElem?_setIfInBounds_self_of_lt (h.inside _ entry)
    · -- Any other entry: its place is not the one that is written to.
      have settled : e.1 ∉ id :: pending := by
        rw [List.mem_cons, not_or]
        exact ⟨same, hpending⟩
      obtain ⟨shape', node', held', supported', placed, built'⟩ := h.finished e he settled
      refine ⟨shape', node', held', supported', ?_, Built.complete value node diagnostics built'⟩
      have other : ref.index ≠ e.2.index := fun heq =>
        same (congrArg Prod.fst (h.place_unique entry he heq)).symm
      rw [Compiler.complete, Array.getElem?_setIfInBounds_ne other]
      exact placed

end Sound

/-! ### Compilations keep the invariant -/

/-- What a visit owes when it answers with a reference: the invariant, and that the id has it. -/
def VisitSound (visit : Compiler → String → Except Stop Ref × Compiler) : Prop :=
  ∀ {pending : List String} {c c' : Compiler} {id : String} {ref : Ref}, c.Sound pending →
    visit c id = (.ok ref, c') → c'.Sound pending ∧ c'.index.get? id = some ref

section Slots

variable {visit : Compiler → String → Except Stop Ref × Compiler}

/-- Filling one slot keeps the invariant, and its reference is that of the slot. -/
theorem fillSlot_sound (sound : VisitSound visit) {pending : List String} {c c' : Compiler}
    {slot : Slot} {ref : Ref} (h : c.Sound pending)
    (filled : fillSlot visit c slot = (.ok ref, c')) :
    c'.Sound pending ∧ Fills c'.nodes c'.index slot ref := by
  cases slot with
  | shape id => exact sound h filled
  | plainString =>
    obtain ⟨href, rfl⟩ := Prod.mk.inj filled
    cases href
    refine ⟨h.push_plainString, ?_, ?_⟩
    · -- The place is the last one, and indexed places come before it.
      intro indexed
      obtain ⟨e, he, heq⟩ := List.mem_map.1 indexed
      have := h.inside e he
      rw [heq] at this
      exact Nat.lt_irrefl _ this
    · exact Array.getElem?_push_size

/-- Filled slots have their references, and the invariant holds with the same ids pending. -/
theorem fillSlots_sound (grows : ∀ (c : Compiler) (id : String), c.Grows (visit c id).2)
    (sound : VisitSound visit) {pending : List String} {slots : List Slot} :
    ∀ {c c' : Compiler} {refs : List Ref}, c.Sound pending →
      fillSlots visit c slots = (.ok refs, c') →
      c'.Sound pending ∧ List.Forall₂ (Fills c'.nodes c'.index) slots refs := by
  induction slots with
  | nil =>
    intro c c' refs h filled
    obtain ⟨hrefs, rfl⟩ := Prod.mk.inj filled
    cases hrefs
    exact ⟨h, .nil⟩
  | cons slot slots ih =>
    intro c c' refs h filled
    obtain ⟨ref, between, rest, head, tail, rfl⟩ := fillSlots_cons_ok filled
    obtain ⟨hbetween, first⟩ := fillSlot_sound sound h head
    obtain ⟨hfinal, others⟩ := ih hbetween tail
    -- The first reference was right before the other slots were filled, and stays so.
    exact ⟨hfinal, .cons (Fills.grows (grows_of_fillSlots grows tail) first) others⟩

end Slots

/-- A compilation that answers with a reference keeps the invariant, and the id has the reference.
-/
theorem compileWithin_sound (depth : Nat) : VisitSound (compileWithin depth) := by
  induction depth using Nat.strongRecOn with
  | ind depth ih =>
    intro pending c c' id ref h run
    have outcome := compileWithin_outcome depth c id
    rw [run] at outcome
    -- Two outcomes answer with a reference: the id is indexed, or its node was built now.
    cases outcome with
    | hit indexed => exact ⟨h, indexed⟩
    | @built depth _ final _ shape registry node diagnostics unindexed resolved supported lowered =>
      obtain ⟨-, held, grown⟩ := Registry.resolve_ok resolved
      obtain ⟨refs, filled, hnode⟩ := lower_ok lowered
      have entered := h.enter unindexed grown
      obtain ⟨hfinal, hrefs⟩ := fillSlots_sound (compileWithin_grows depth)
        (ih depth (Nat.lt_succ_self _)) entered filled
      -- Filling the slots only appended, so the id still has the place that it took.
      have later := grows_of_fillSlots (compileWithin_grows depth) filled
      have indexed : final.index.get? id = some ⟨c.nodes.size⟩ :=
        later.get? (OrderedMap.get?_insert_self _ unindexed)
      exact ⟨hfinal.complete diagnostics indexed (later.registry.get? held) supported
        ⟨refs, diagnostics, hrefs, hnode⟩, indexed⟩

end Compiler

end ShapeSchema
