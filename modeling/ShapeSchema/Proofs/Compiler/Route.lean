import ShapeSchema.Proofs.Compiler.Preorder

/-!
# `ShapeSchema.Proofs.Compiler.Route`: the order of a traversal, by routes

A traversal says in which order shapes are visited by visiting them. This module says it without:
by the routes that lead to a shape. `Registry.Route` is a way through the shape graph that comes to
no shape twice, told by the turns that it takes: the position of a slot among the slots of each
shape on the way. Turns are compared as words in a dictionary, so a route comes before its own
continuations, and before all that take a later turn where they part from it.

`traverse_ordered` is the law: a traversal visits what a route leads to, and it visits one shape
before another exactly if some route to the one comes before all routes to the other
(`Registry.Sooner`).

A step of the traversal puts the slots of a shape in front of those that are pending, and after it
no route may pass through that shape again. Routes before and after the step correspond
(`Route.before`, `Route.after`). One that did pass through the shape has no counterpart, but its end
has: from the shape on it is a route of its own (`Route.detour`).
-/

set_option autoImplicit false

namespace ShapeSchema

namespace Registry

/-- A route from slots to a shape. It takes one of the slots, goes on from the shape of that slot to
one of its own slots, and so on, and comes to no shape twice, nor to one that was passed before. The
turns are the positions of the slots that it takes. -/
inductive Route (r : Registry) : List String → List Slot → List Nat → String → Prop where
  | here {passed : List String} {slots : List Slot} {i : Nat} {id : String}
      (slot : slots[i]? = some (.shape id)) (fresh : id ∉ passed) : Route r passed slots [i] id
  | through {passed : List String} {slots : List Slot} {i : Nat} {id : String} {turns : List Nat}
      {x : String} (slot : slots[i]? = some (.shape id)) (fresh : id ∉ passed)
      (rest : Route r (passed ++ [id]) (r.slotsOf id) turns x) : Route r passed slots (i :: turns) x

/-- Some route to the one shape comes before all routes to the other. -/
def Sooner (r : Registry) (passed : List String) (slots : List Slot) (x y : String) : Prop :=
  ∃ turns, r.Route passed slots turns x ∧ ∀ other, r.Route passed slots other y → turns < other

namespace Route

variable {r : Registry} {passed : List String} {slots : List Slot} {turns : List Nat} {x : String}

/-- A route begins with a turn to a shape that was not passed. -/
theorem cases_cons (h : r.Route passed slots turns x) :
    ∃ i id rest, turns = i :: rest ∧ slots[i]? = some (.shape id) ∧ id ∉ passed ∧
      (rest = [] ∧ x = id ∨ r.Route (passed ++ [id]) (r.slotsOf id) rest x) := by
  cases h with
  | here slot fresh => exact ⟨_, _, _, rfl, slot, fresh, .inl ⟨rfl, rfl⟩⟩
  | through slot fresh rest => exact ⟨_, _, _, rfl, slot, fresh, .inr rest⟩

/-- A route does not lead to what was passed. -/
theorem notMem (h : r.Route passed slots turns x) : x ∉ passed := by
  induction h with
  | here _ fresh => exact fresh
  | through _ _ _ ih => exact fun mem => ih (List.mem_append_left _ mem)

/-- A route may start with less passed. -/
theorem mono (h : r.Route passed slots turns x) {fewer : List String}
    (sub : ∀ a ∈ fewer, a ∈ passed) : r.Route fewer slots turns x := by
  induction h generalizing fewer with
  | here slot fresh => exact .here slot fun mem => fresh (sub _ mem)
  | through slot fresh _ ih =>
    refine .through slot (fun mem => fresh (sub _ mem)) (ih fun a mem => ?_)
    exact List.mem_append.2 ((List.mem_append.1 mem).imp_left (sub a))

/-- Of the slots only the first that is taken matters. -/
theorem congr {i j : Nat} {rest : List Nat} (h : r.Route passed slots (i :: rest) x)
    {others : List Slot} (same : slots[i]? = others[j]?) : r.Route passed others (j :: rest) x := by
  cases h with
  | here slot fresh => exact .here (same ▸ slot) fresh
  | through slot fresh rest => exact .through (same ▸ slot) fresh rest

/-- A route that leads to another shape avoids a given one, or passes through it. In that case the
end of it is a route from the given shape: by induction on the route, whose first shape is the given
one or another. -/
theorem detour (h : r.Route passed slots turns x) {id : String} (other : x ≠ id) :
    r.Route (passed ++ [id]) slots turns x ∨
      ∃ later, r.Route (passed ++ [id]) (r.slotsOf id) later x := by
  induction h with
  | here slot fresh => exact .inl (.here slot (by simp [fresh, other]))
  | @through passed _ _ first turns x slot fresh rest ih =>
    by_cases same : first = id
    · exact .inr ⟨turns, same ▸ rest⟩
    · rcases ih other with avoids | ⟨later, passes⟩
      · -- Whether the given shape or the first one was passed before the other makes no difference.
        exact .inl (.through slot (by simp [fresh, same]) (avoids.mono (by grind)))
      · exact .inr ⟨later, passes.mono (by grind)⟩

/-- The turns of a route before a step, given those after it, where the shape that is visited has
`n` slots: a turn to one of these comes after the turn to the shape, and the others move up. -/
def turnsBefore (n : Nat) : List Nat → List Nat
  | [] => []
  | i :: rest => if i < n then 0 :: i :: rest else (i - n + 1) :: rest

section Step

variable {id : String} {pending : List Slot}

/-- A route after a step is one before it. -/
theorem before (fresh : id ∉ passed)
    (h : r.Route (passed ++ [id]) (r.slotsOf id ++ pending) turns x) :
    r.Route passed (.shape id :: pending) (turnsBefore (r.slotsOf id).length turns) x := by
  obtain ⟨i, _, rest, rfl, -⟩ := h.cases_cons
  rw [turnsBefore]
  split
  · rename_i own
    exact .through rfl fresh (h.congr (List.getElem?_append_left own))
  · rename_i later
    refine (h.mono fun a mem => List.mem_append_left _ mem).congr ?_
    rw [List.getElem?_append_right (by omega), List.getElem?_cons_succ]

/-- What comes before a turn to one of the shape's own slots goes to the shape first. -/
theorem turnsBefore_of_lt {n i : Nat} {less rest : List Nat} (own : i < n)
    (h : less < i :: rest) : less = [] ∨ turnsBefore n less = 0 :: less := by
  cases less with
  | nil => exact .inl rfl
  | cons k ks =>
    have bound : k < n := by
      rcases List.cons_lt_cons_iff.1 h with first | ⟨same, -⟩ <;> omega
    exact .inr (if_pos bound)

/-- A route from the slots of the shape that is visited. -/
theorem of_own (h : r.Route (passed ++ [id]) (r.slotsOf id) turns x) (pending : List Slot) :
    ∃ i rest, turns = i :: rest ∧ i < (r.slotsOf id).length ∧
      r.Route (passed ++ [id]) (r.slotsOf id ++ pending) turns x := by
  obtain ⟨i, _, rest, rfl, slot, -⟩ := h.cases_cons
  have bound := (List.getElem?_eq_some_iff.1 slot).1
  exact ⟨i, rest, rfl, bound, h.congr (List.getElem?_append_left bound).symm⟩

/-- A route before a step to another shape than the one that is visited has a counterpart after it,
which is as soon: what comes before the counterpart comes before the route. -/
theorem after (h : r.Route passed (.shape id :: pending) turns x) (other : x ≠ id) :
    ∃ turns', r.Route (passed ++ [id]) (r.slotsOf id ++ pending) turns' x ∧
      ∀ less, less < turns' → turnsBefore (r.slotsOf id).length less < turns := by
  obtain ⟨i, first, rest, rfl, slot, fresh, start⟩ := h.cases_cons
  cases i with
  | zero =>
    -- The route goes to the shape at once, and it does not end there.
    cases slot
    obtain ⟨-, last⟩ | own := start
    · exact absurd last other
    · obtain ⟨i, later, rfl, bound, route⟩ := own.of_own pending
      refine ⟨_, route, fun less lt => ?_⟩
      rcases turnsBefore_of_lt bound lt with rfl | same
      · exact List.nil_lt_cons _ _
      · rw [same]
        exact List.cons_lt_cons_iff.2 (.inr ⟨rfl, lt⟩)
  | succ j =>
    have among : r.Route passed pending (j :: rest) x := h.congr (List.getElem?_cons_succ ..)
    rcases among.detour other with avoids | ⟨later, passes⟩
    · refine ⟨((r.slotsOf id).length + j) :: rest, avoids.congr ?_, fun less lt => ?_⟩
      · rw [List.getElem?_append_right (by omega), Nat.add_sub_cancel_left]
      · cases less with
        | nil => exact List.nil_lt_cons _ _
        | cons k ks =>
          rw [turnsBefore]
          split
          · exact List.cons_lt_cons_iff.2 (.inl (Nat.succ_pos j))
          · rcases List.cons_lt_cons_iff.1 lt with first | ⟨same, rest⟩
            · exact List.cons_lt_cons_iff.2 (.inl (by omega))
            · exact List.cons_lt_cons_iff.2 (.inr ⟨by omega, rest⟩)
    · -- It passes through the shape later, and a route that goes there at once is sooner.
      obtain ⟨i, later, rfl, bound, route⟩ := passes.of_own pending
      refine ⟨_, route, fun less lt => ?_⟩
      rcases turnsBefore_of_lt bound lt with rfl | same
      · exact List.nil_lt_cons _ _
      · rw [same]
        exact List.cons_lt_cons_iff.2 (.inl (Nat.succ_pos j))

end Step

/-- Past a slot that leads nowhere new, routes move up by one. -/
theorem cons_iff {slot : Slot} (known : ∀ id, slot = .shape id → id ∈ passed) :
    r.Route passed (slot :: slots) turns x ↔
      ∃ i rest, turns = (i + 1) :: rest ∧ r.Route passed slots (i :: rest) x := by
  constructor
  · intro h
    obtain ⟨i, id, rest, rfl, slot, fresh, -⟩ := h.cases_cons
    cases i with
    | zero => exact absurd (known id (Option.some.inj slot)) fresh
    | succ i => exact ⟨i, rest, rfl, h.congr (List.getElem?_cons_succ ..)⟩
  · rintro ⟨i, rest, rfl, h⟩
    exact h.congr (List.getElem?_cons_succ ..).symm

end Route

/-! ### The law -/

/-- The ids are those that routes lead to, and an id stands before another if some route to it comes
before all routes to the other. -/
structure Ordered (r : Registry) (passed : List String) (slots : List Slot) (ids : List String) :
    Prop where
  mem_iff : ∀ x, x ∈ ids ↔ ∃ turns, r.Route passed slots turns x
  sooner : ids.Pairwise (r.Sooner passed slots)

section Ordered

variable {r : Registry} {passed : List String} {slots : List Slot} {ids : List String}

/-- No two shapes are sooner than each other. -/
theorem Sooner.asymm {x y : String} (h : r.Sooner passed slots x y) :
    ¬ r.Sooner passed slots y x := by
  rintro ⟨turns', route', before'⟩
  obtain ⟨turns, route, before⟩ := h
  exact List.lt_asymm (before _ route') (before' _ route)

/-- A slot that leads nowhere new changes nothing. -/
theorem Ordered.cons {slot : Slot} (known : ∀ id, slot = .shape id → id ∈ passed)
    (h : r.Ordered passed slots ids) : r.Ordered passed (slot :: slots) ids where
  mem_iff x := by
    rw [h.mem_iff]
    constructor
    · rintro ⟨turns, route⟩
      obtain ⟨i, _, rest, rfl, -⟩ := route.cases_cons
      exact ⟨_, (Route.cons_iff known).2 ⟨i, rest, rfl, route⟩⟩
    · rintro ⟨turns, route⟩
      obtain ⟨i, rest, -, moved⟩ := (Route.cons_iff known).1 route
      exact ⟨_, moved⟩
  sooner := by
    refine h.sooner.imp fun {x y} sooner => ?_
    obtain ⟨turns, route, before⟩ := sooner
    obtain ⟨i, _, rest, rfl, -⟩ := route.cases_cons
    refine ⟨_, (Route.cons_iff known).2 ⟨i, rest, rfl, route⟩, fun other route' => ?_⟩
    obtain ⟨j, rest', rfl, moved⟩ := (Route.cons_iff known).1 route'
    -- All routes are moved by one slot, which keeps their order.
    rcases List.cons_lt_cons_iff.1 (before _ moved) with first | ⟨rfl, later⟩
    · exact List.cons_lt_cons_iff.2 (.inl (by omega))
    · exact List.cons_lt_cons_iff.2 (.inr ⟨rfl, later⟩)

/-- The shape that is visited comes first, and what comes after it is in order with its slots in
front. -/
theorem Ordered.visit {id : String} (fresh : id ∉ passed)
    (h : r.Ordered (passed ++ [id]) (r.slotsOf id ++ slots) ids) :
    r.Ordered passed (.shape id :: slots) (id :: ids) := by
  -- The shape was passed after the step, so it is not among the others.
  have other {x : String} (mem : x ∈ ids) : x ≠ id := by
    rintro rfl
    obtain ⟨turns, route⟩ := (h.mem_iff x).1 mem
    exact route.notMem (by simp)
  refine ⟨fun x => ?_, List.pairwise_cons.2 ⟨fun y mem => ?_, ?_⟩⟩
  · rw [List.mem_cons, h.mem_iff]
    constructor
    · rintro (rfl | ⟨turns, route⟩)
      · exact ⟨[0], .here rfl fresh⟩
      · exact ⟨_, route.before fresh⟩
    · rintro ⟨turns, route⟩
      by_cases same : x = id
      · exact .inl same
      · obtain ⟨turns', route', -⟩ := route.after same
        exact .inr ⟨turns', route'⟩
  · -- The one turn to the shape comes before all routes that go on from it or pass it by.
    refine ⟨[0], .here rfl fresh, fun turns route => ?_⟩
    obtain ⟨i, first, rest, rfl, slot, -, start⟩ := route.cases_cons
    cases i with
    | succ i => exact List.cons_lt_cons_iff.2 (.inl (Nat.succ_pos i))
    | zero =>
      cases slot
      obtain ⟨-, last⟩ | own := start
      · exact absurd last (other mem)
      · obtain ⟨i, _, later, rfl, -⟩ := own.cases_cons
        exact List.cons_lt_cons_iff.2 (.inr ⟨rfl, List.nil_lt_cons _ _⟩)
  · refine h.sooner.imp_of_mem fun {x y} _ mem sooner => ?_
    obtain ⟨turns, route, before⟩ := sooner
    refine ⟨_, route.before fresh, fun turns' route' => ?_⟩
    obtain ⟨counterpart, after, least⟩ := route'.after (other mem)
    exact least _ (before _ after)

end Ordered

/-- A traversal adds what routes lead to, in the order of the routes: by induction on its steps. -/
theorem traverse_ordered (r : Registry) (t : Traversal) (slots : List Slot) :
    ∃ added, (r.traverse t slots).ids = t.ids ++ added ∧ r.Ordered t.ids slots added := by
  -- The cases are those of the traversal: no slot, a plain string, a known id, a fresh one.
  fun_induction r.traverse t slots with
  | case1 t =>
    refine ⟨[], (List.append_nil _).symm, fun x => ?_, .nil⟩
    simp only [List.not_mem_nil, false_iff, not_exists]
    intro turns route
    obtain ⟨i, _, rest, -, slot, -⟩ := route.cases_cons
    cases slot
  | case2 t pending ih =>
    obtain ⟨added, ids, ordered⟩ := ih
    exact ⟨added, ids, ordered.cons fun id shape => by cases shape⟩
  | case3 t id pending known ih =>
    obtain ⟨added, ids, ordered⟩ := ih
    refine ⟨added, ids, ordered.cons fun x shape => ?_⟩
    cases shape
    exact known
  | case4 t id pending fresh ih =>
    obtain ⟨added, ids, ordered⟩ := ih
    rw [Traversal.ids_visit] at ids ordered
    exact ⟨id :: added, by rw [ids, List.append_assoc]; rfl, ordered.visit fresh⟩

end Registry

end ShapeSchema
