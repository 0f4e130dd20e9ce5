import ShapeSchema.Proofs.Schema.Range

/-!
# `ShapeSchema.Proofs.Compiler.Preorder`: the order of compilation

A compilation takes a place for a shape before it goes on to the targets of the shape, and it goes
on only to targets that have no place yet. So the shapes of a model stand in the order in which a
depth-first traversal of the shape graph first comes to them.

`Registry.traverse` is that traversal, given by itself: it knows the registry and nothing of
compilers. It visits what is pending from left to right and puts the slots of a shape that it visits
in front of what is still pending. `traverse_visit` reads this as a recursion: an id that was not
visited takes the next place, then all that it leads to is traversed, and then the rest.

`compileWithin_follows` relates the two for one compilation, cycles and shared targets included, and
`ofJson_traverse` for the model of a document: the index is what the traversal visited, each id with
the place that it took, and the registry is the declared shapes and behind them the other ones that
were visited, in order.
-/

set_option autoImplicit false

namespace ShapeSchema

/-! ### The traversal -/

/-- How far a traversal has come: the ids that it has visited, each with the place that it took, and
how many places are taken. -/
structure Traversal where
  visited : List (String × Ref) := []
  taken : Nat := 0

namespace Traversal

/-- The ids that were visited, in order. -/
def ids (t : Traversal) : List String := t.visited.map Prod.fst

/-- Visits an id, which takes the next place. -/
def visit (t : Traversal) (id : String) : Traversal :=
  ⟨t.visited ++ [(id, ⟨t.taken⟩)], t.taken + 1⟩

/-- Leaves the next place to a plain string. -/
def skip (t : Traversal) : Traversal := { t with taken := t.taken + 1 }

/-- A visited id comes last. -/
@[simp] theorem ids_visit (t : Traversal) (id : String) : (t.visit id).ids = t.ids ++ [id] := by
  simp [ids, visit]

/-- A plain string adds no id. -/
@[simp] theorem ids_skip (t : Traversal) : t.skip.ids = t.ids := rfl

end Traversal

namespace Registry

/-- What the shape of an id leads to: the targets of its members in the order in which they are
declared, the element of a list, or the key and the value of a map. A plain string stands for a key
that is not declared. An id without a shape leads to nothing. -/
def slotsOf (r : Registry) (id : String) : List Slot :=
  match r.shape? id with
  | none => []
  | some s =>
    match s.kind with
    | .record | .resource | .union => s.members.entries.map fun e => .shape e.2.target
    | .list | .set => s.element.toList.map .shape
    | .map =>
      let key : Slot := match s.key with
        | some key => .shape key
        | none => .plainString
      key :: s.value.toList.map .shape
    | _ => []

/-- These are the slots that are filled when the shape is compiled. -/
theorem slotsOf_eq {r : Registry} {id : String} {s : Shape} (resolved : r.shape? id = some s) :
    r.slotsOf id = s.slots := by
  rw [slotsOf, resolved, Shape.slots]
  dsimp only
  cases s.kind with
  | record | resource | union => simp [OrderedMap.values]
  | map => cases s.key <;> rfl
  | _ => rfl

/-- Only the shapes in the table lead to anything. -/
theorem slotsOf_eq_nil {r : Registry} {id : String} (absent : id ∉ r.shapes.keys) :
    r.slotsOf id = [] := by
  have unknown : r.get? id = none := Entries.lookup_eq_none_iff.2 absent
  cases builtin : builtinKind? id with
  | none => rw [slotsOf, shape?, unknown, Option.none_or, builtin, Option.map_none]
  | some kind =>
    have resolved : r.shape? id = some (Shape.ofPrelude id kind) := by
      rw [shape?, unknown, Option.none_or, builtin, Option.map_some]
    rw [slotsOf_eq resolved]
    -- The kinds of the prelude have no targets, and no map is among them.
    obtain ⟨rest, -, known⟩ := Option.bind_eq_some_iff.1 builtin
    have mem : kind ∈ preludeKinds.map Prod.snd := List.mem_map_of_mem (Entries.mem_of_lookup known)
    have flat : ∀ k ∈ preludeKinds.map Prod.snd, (Shape.ofPrelude "" k).slots = [] := by decide
    exact flat kind mem

/-- How many shapes of the table a traversal has still to visit. -/
def unvisited (r : Registry) (t : Traversal) : Nat := r.shapes.keys.countP fun id => id ∉ t.ids

/-- A visit of a shape of the table leaves one less to visit. -/
theorem unvisited_visit_lt {r : Registry} {t : Traversal} {id : String} (held : id ∈ r.shapes.keys)
    (fresh : id ∉ t.ids) : r.unvisited (t.visit id) < r.unvisited t := by
  refine Compiler.countP_lt_countP ?_ held ?_ ?_
  · intro x _ later
    simp only [Traversal.ids_visit, List.mem_append, not_or, decide_eq_true_eq] at later ⊢
    exact later.1
  · simpa using fresh
  · simp

/-- No visit leaves more. -/
theorem unvisited_visit_le (r : Registry) (t : Traversal) (id : String) :
    r.unvisited (t.visit id) ≤ r.unvisited t := by
  refine List.countP_mono_left fun x _ later => ?_
  simp only [Traversal.ids_visit, List.mem_append, not_or, decide_eq_true_eq] at later ⊢
  exact later.1

/-- Visits what is pending, from left to right and depth first: the slots of a shape come before
what was pending already. An id that was visited is passed over, and a plain string takes a place
without being visited. -/
def traverse (r : Registry) (t : Traversal) : List Slot → Traversal
  | [] => t
  | .plainString :: pending => r.traverse t.skip pending
  | .shape id :: pending =>
    if id ∈ t.ids then r.traverse t pending
    else r.traverse (t.visit id) (r.slotsOf id ++ pending)
termination_by pending => (r.unvisited t, pending.length)
decreasing_by
  · exact Prod.Lex.right _ (Nat.lt_succ_self _)
  · exact Prod.Lex.right _ (Nat.lt_succ_self _)
  · rename_i fresh
    by_cases held : id ∈ r.shapes.keys
    · exact Prod.Lex.left _ _ (unvisited_visit_lt held fresh)
    · -- No shape of the table is visited, but then nothing gets pending either.
      rw [slotsOf_eq_nil held, List.nil_append]
      rcases Nat.lt_or_eq_of_le (unvisited_visit_le r t id) with less | same
      · exact Prod.Lex.left _ _ less
      · rw [same]
        exact Prod.Lex.right _ (Nat.lt_succ_self _)

section Traverse

variable (r : Registry)

/-- With nothing pending the traversal is over. -/
theorem traverse_nil (t : Traversal) : r.traverse t [] = t := by rw [traverse]

/-- What is pending is traversed one after the other. -/
theorem traverse_append (t : Traversal) (first second : List Slot) :
    r.traverse t (first ++ second) = r.traverse (r.traverse t first) second := by
  fun_induction r.traverse t first with
  | case1 => rfl
  | case2 t pending ih => rw [List.cons_append, traverse, ih]
  | case3 t id pending known ih => rw [List.cons_append, traverse, if_pos known, ih]
  | case4 t id pending fresh ih =>
    rw [List.cons_append, traverse, if_neg fresh, ← List.append_assoc, ih]

/-- What comes first is traversed before the rest. -/
theorem traverse_cons (t : Traversal) (slot : Slot) (pending : List Slot) :
    r.traverse t (slot :: pending) = r.traverse (r.traverse t [slot]) pending :=
  r.traverse_append t [slot] pending

/-- An id that was visited is passed over. -/
theorem traverse_known {t : Traversal} {id : String} (known : id ∈ t.ids) :
    r.traverse t [.shape id] = t := by
  rw [traverse, if_pos known, traverse_nil]

/-- The recursion: an id that was not visited takes the next place, and then all that it leads to is
traversed. -/
theorem traverse_visit {t : Traversal} {id : String} (fresh : id ∉ t.ids) :
    r.traverse t [.shape id] = r.traverse (t.visit id) (r.slotsOf id) := by
  rw [traverse, if_neg fresh, List.append_nil]

/-- A plain string takes a place and leads nowhere. -/
theorem traverse_plainString (t : Traversal) : r.traverse t [.plainString] = t.skip := by
  rw [traverse, traverse_nil]

end Traverse

/-- A look-up leaves the table as it is, or puts the id behind all others. -/
theorem keys_of_resolve {r r' : Registry} {id : String} {s : Shape}
    (resolved : r.resolve id = .ok (s, r')) :
    r'.shapes.keys = if id ∈ r.shapes.keys then r.shapes.keys else r.shapes.keys ++ [id] := by
  unfold resolve at resolved
  cases known : r.get? id with
  | some shape =>
    rw [known] at resolved
    cases resolved
    have held : id ∈ r.shapes.keys := by
      by_contra absent
      rw [Registry.get?, OrderedMap.get?, Entries.lookup_eq_none_iff.2 absent] at known
      cases known
    rw [if_pos held]
  | none =>
    rw [known] at resolved
    -- An id that is not there is appended, if the prelude has it.
    cases builtin : builtinKind? id with
    | none =>
      rw [builtin] at resolved
      cases resolved
    | some kind =>
      rw [builtin] at resolved
      cases resolved
      exact OrderedMap.keys_insert _ _ _

/-- Only ids of the prelude are put behind the others. -/
theorem Grows.isSome_builtinKind? {r r' : Registry} (h : r.Grows r') {id : String}
    (held : id ∈ r'.shapes.keys) (absent : id ∉ r.shapes.keys) :
    (builtinKind? id).isSome = true := by
  obtain ⟨added, entries, prelude⟩ := h.shapes
  rw [OrderedMap.keys, entries, List.map_append, List.mem_append] at held
  obtain ⟨e, mem, rfl⟩ := List.mem_map.1 (held.resolve_left absent)
  obtain ⟨kind, builtin, -⟩ := prelude e mem
  rw [builtin, Option.isSome_some]

end Registry

namespace Compiler

/-! ### A compilation is a traversal -/

/-- A compiler as a traversal sees it: the ids with their places, and the size of the arena. -/
def traversal (c : Compiler) : Traversal := ⟨c.index.entries, c.nodes.size⟩

/-- The ids that a compiler has visited are those of its index. -/
@[simp] theorem ids_traversal (c : Compiler) : c.traversal.ids = c.index.keys := rfl

/-- To append a node is to leave a place to it. -/
theorem traversal_push (c : Compiler) (node : Node) :
    (c.push node).2.traversal = c.traversal.skip := by
  simp [traversal, Traversal.skip, push]

/-- A node that is put into its place moves nothing. -/
theorem traversal_complete (c : Compiler) (place : Ref) (node : Node)
    (diagnostics : List Diagnostic) :
    (c.complete place node diagnostics).traversal = c.traversal := by
  simp [traversal, complete]

/-- To take a place for a shape is to visit its id. -/
theorem traversal_enter {c : Compiler} {registry : Registry} {id : String}
    (unindexed : c.index.get? id = none) :
    (c.enter registry id).traversal = c.traversal.visit id := by
  rw [traversal, Traversal.visit, enter_index, enter_nodes, OrderedMap.entries_insert _ unindexed,
    Array.size_push]
  rfl

/-- The compiler has gone on from a registry without a failure: what its registry has got since then
is what was indexed and not there before, in the order of the index. -/
structure Follows (r : Registry) (c : Compiler) : Prop where
  grown : r.Grows c.registry
  keys : c.registry.shapes.keys = r.shapes.keys ++ c.index.keys.filter (· ∉ r.shapes.keys)

namespace Follows

variable {r : Registry} {c : Compiler}

/-- Before any call nothing is indexed and the registry is the one it started from. -/
theorem start (r : Registry) : Follows r (start r) where
  grown := .refl r
  keys := by simp [Compiler.start, OrderedMap.keys]

/-- A plain string changes neither the registry nor the index. -/
theorem push_plainString (h : Follows r c) : Follows r (c.push .plainString).2 := ⟨h.grown, h.keys⟩

/-- Nor does a node that is put into its place. -/
theorem complete (h : Follows r c) (place : Ref) (node : Node) (diagnostics : List Diagnostic) :
    Follows r (c.complete place node diagnostics) := ⟨h.grown, h.keys⟩

/-- An id that is looked up and then indexed comes last in both, unless the registry had it from the
start. -/
theorem enter (h : Follows r c) {registry : Registry} {id : String} {s : Shape}
    (unindexed : c.index.get? id = none) (resolved : c.registry.resolve id = .ok (s, registry)) :
    Follows r (c.enter registry id) where
  grown := h.grown.trans (Registry.resolve_ok resolved).2.2
  keys := by
    have absent : id ∉ c.index.keys := Entries.lookup_eq_none_iff.1 unindexed
    have indexed : (c.enter registry id).index.keys = c.index.keys ++ [id] := by
      rw [enter_index, OrderedMap.keys_insert, if_neg absent]
    rw [enter_registry, Registry.keys_of_resolve resolved, indexed, List.filter_append]
    by_cases held : id ∈ r.shapes.keys
    · -- The id was there from the start, so neither list gets it.
      have known : id ∈ c.registry.shapes.keys := by
        rw [h.keys]
        exact List.mem_append_left _ held
      rw [if_pos known, h.keys]
      simp [held]
    · -- It was neither there nor indexed, so the look-up has put it last.
      have unknown : id ∉ c.registry.shapes.keys := by
        rw [h.keys, List.mem_append, not_or]
        exact ⟨held, fun mem => absent (List.mem_filter.1 mem).1⟩
      rw [if_neg unknown, h.keys]
      simp [held]

end Follows

/-- What a visit owes when it answers with a reference: it has gone on from the registry, and it has
traversed what the id leads to. -/
def VisitFollows (r : Registry) (visit : Compiler → String → Except Stop Ref × Compiler) : Prop :=
  ∀ {c c' : Compiler} {id : String} {ref : Ref}, Follows r c → visit c id = (.ok ref, c') →
    Follows r c' ∧ c'.traversal = r.traverse c.traversal [.shape id]

/-- To fill slots one after the other is to traverse them. -/
theorem fillSlots_follows {r : Registry} {visit : Compiler → String → Except Stop Ref × Compiler}
    (visits : VisitFollows r visit) {slots : List Slot} :
    ∀ {c c' : Compiler} {refs : List Ref}, Follows r c → fillSlots visit c slots = (.ok refs, c') →
      Follows r c' ∧ c'.traversal = r.traverse c.traversal slots := by
  induction slots with
  | nil =>
    intro c c' refs h filled
    cases filled
    exact ⟨h, (r.traverse_nil _).symm⟩
  | cons slot slots ih =>
    intro c c' refs h filled
    obtain ⟨ref, between, rest, head, tail, -⟩ := fillSlots_cons_ok filled
    have first : Follows r between ∧ between.traversal = r.traverse c.traversal [slot] := by
      cases slot with
      | shape id => exact visits h head
      | plainString =>
        cases head
        refine ⟨h.push_plainString, ?_⟩
        show (c.push .plainString).2.traversal = _
        rw [traversal_push, Registry.traverse_plainString]
    obtain ⟨follows, traversed⟩ := ih first.1 tail
    refine ⟨follows, ?_⟩
    rw [traversed, first.2, ← Registry.traverse_cons]

/-- A compilation that answers with a reference traverses what its id leads to: by induction on the
depth, since between taking the place and putting the node there the slots are filled. -/
theorem compileWithin_follows (r : Registry) (depth : Nat) :
    VisitFollows r (compileWithin depth) := by
  induction depth using Nat.strongRecOn with
  | ind depth ih =>
    intro c c' id ref h run
    have outcome := compileWithin_outcome depth c id
    rw [run] at outcome
    cases outcome with
    | hit indexed =>
      have known : id ∈ c.traversal.ids := by
        rw [ids_traversal]
        exact List.mem_map.2 ⟨_, OrderedMap.get?_eq_some_iff.1 indexed, rfl⟩
      exact ⟨h, (r.traverse_known known).symm⟩
    | @built depth _ final _ shape registry node diagnostics unindexed resolved _ lowered =>
      obtain ⟨refs, filled, -⟩ := lower_ok lowered
      obtain ⟨follows, traversed⟩ := fillSlots_follows (ih depth (Nat.lt_succ_self _))
        (h.enter unindexed resolved) filled
      refine ⟨follows.complete _ node diagnostics, ?_⟩
      -- The shape that was looked up is the one that the id has in the registry at the start.
      have held : r.shape? id = some shape := by
        rw [← Registry.shape?_of_grows h.grown]
        exact (Registry.resolve_ok resolved).1
      have fresh : id ∉ c.traversal.ids := Entries.lookup_eq_none_iff.1 unindexed
      calc (final.complete ⟨c.nodes.size⟩ node diagnostics).traversal
          = final.traversal := traversal_complete _ _ _ _
        _ = r.traverse (c.traversal.visit id) shape.slots := by
            rw [traversed, traversal_enter unindexed]
        _ = r.traverse c.traversal [.shape id] := by
            rw [r.traverse_visit fresh, Registry.slotsOf_eq held]

/-- Calls that all succeed traverse their ids, one after the other. -/
theorem compileAll_follows {r : Registry} (ids : List String) :
    ∀ {c c' : Compiler}, Follows r c → c.compileAll ids = .ok c' →
      Follows r c' ∧ c'.traversal = r.traverse c.traversal (ids.map .shape) := by
  induction ids with
  | nil =>
    intro c c' h all
    cases all
    exact ⟨h, (r.traverse_nil _).symm⟩
  | cons id ids ih =>
    intro c c' h all
    rw [compileAll] at all
    -- The first call visits its id, and the others go on from the traversal it leaves.
    cases call : c.compile id with
    | mk answer between =>
      rw [call] at all
      cases answer with
      | error e => cases all
      | ok ref =>
        have run := compileWithin_of_compile_ok (congrArg Prod.fst call)
        rw [call] at run
        obtain ⟨first, traversed⟩ := compileWithin_follows r _ h run
        obtain ⟨follows, rest⟩ := ih first all
        refine ⟨follows, ?_⟩
        rw [rest, traversed, List.map_cons, ← Registry.traverse_cons]

end Compiler

/-! ### Models -/

namespace CompiledModel

/-- The model of a document has its shapes in the order of a depth-first traversal.

The traversal begins with the declared ids, which stand in the order in which the document has its
shapes. The index of the model is what it visits, each id with the place that it takes, and the
arena has the places that are taken. The ids of the index are those of the registry: the declared
ones, and behind them the other ones that are visited, in order, all of which are ids of the
prelude. -/
theorem ofJson_traverse {document : Json} {m : CompiledModel} (compiled : ofJson document = .ok m) :
    ∃ r, Registry.load document = .ok r ∧
      (∀ shapes, document.Regular (fun _ => True) →
        document.part? 1 "shapes" = some (.object shapes) →
          r.declaredIds = shapes.map Prod.fst) ∧
      let t := r.traverse {} (r.declaredIds.map .shape)
      m.index.entries = t.visited ∧ m.nodes.size = t.taken ∧
      (∀ id, id ∈ m.ids ↔ id ∈ m.registry.shapes.keys) ∧
      m.registry.declaredIds = r.declaredIds ∧
      m.registry.shapes.keys = r.declaredIds ++ t.ids.filter (· ∉ r.declaredIds) ∧
      ∀ id ∈ t.ids, id ∉ r.declaredIds → (builtinKind? id).isSome = true := by
  obtain ⟨r, load, model⟩ := except_bind_ok compiled
  obtain ⟨c, all, last⟩ := except_bind_ok model
  cases last
  have held := Registry.declaredIds_eq (Registry.isLoaded_of_load load)
  obtain ⟨follows, traversed⟩ := Compiler.compileAll_follows r.declaredIds (.start r) all
  change c.traversal = r.traverse {} (r.declaredIds.map .shape) at traversed
  have keys : c.registry.shapes.keys =
      r.declaredIds ++ c.index.keys.filter (· ∉ r.declaredIds) := held ▸ follows.keys
  -- The declared ids are indexed because each of them was called.
  have indexed : ∀ id ∈ r.declaredIds, id ∈ c.index.keys := by
    intro id declared
    obtain ⟨ref, found⟩ := Compiler.indexed_of_compileAll r.declaredIds (.start r) all id declared
    exact List.mem_map.2 ⟨_, OrderedMap.get?_eq_some_iff.1 found, rfl⟩
  have same (id : String) : id ∈ c.index.keys ↔ id ∈ c.registry.shapes.keys := by
    rw [keys, List.mem_append, List.mem_filter, decide_eq_true_eq]
    by_cases declared : id ∈ r.declaredIds
    · simp [declared, indexed id declared]
    · simp [declared]
  refine ⟨r, load, fun shapes regular written => ?_, ?_⟩
  · rw [held, Registry.keys_of_load regular load written]
  show c.index.entries = _ ∧ c.nodes.size = _ ∧ _
  rw [← traversed, Compiler.ids_traversal]
  refine ⟨rfl, rfl, same, ?_, keys, ?_⟩
  · show c.registry.shapes.keys.take c.registry.declared = r.declaredIds
    have count : c.registry.declared = r.declaredIds.length := by
      rw [follows.grown.declared, held, Registry.isLoaded_of_load load, OrderedMap.size,
        OrderedMap.keys, List.length_map]
    rw [keys, count, List.take_left]
  · intro id mem undeclared
    exact follows.grown.isSome_builtinKind? ((same id).1 mem) (held ▸ undeclared)

/-! ### A grove -/

/-- A document with a tree that leads back to itself through a map without key, and with a list of
the prelude shape that the tree has come to before. -/
def groveDocument : Json :=
  let target (id : String) : Json := .object [("target", .string id)]
  .object [("shapes", .object
    [("ns#Tree", .object [("type", .string "structure"), ("members", .object
        [("label", target "smithy.api#String"), ("groups", target "ns#Groups")])]),
     ("ns#Leaves", .object [("type", .string "list"), ("member", target "smithy.api#String")]),
     ("ns#Groups", .object [("type", .string "map"), ("value", target "ns#Tree")])])]

/-- No object of the grove repeats a key. -/
theorem groveDocument_regular : groveDocument.Regular fun _ => True := by simp [groveDocument]

/-- The targets of the tree come before the list that is declared before one of them. The map leaves
a place to its keys, which have no shape. -/
theorem groveDocument_traversed : ∃ m r, ofJson groveDocument = .ok m ∧
    Registry.load groveDocument = .ok r ∧
    r.declaredIds = ["ns#Tree", "ns#Leaves", "ns#Groups"] ∧
    (r.traverse {} (r.declaredIds.map .shape)).visited =
      [("ns#Tree", ⟨0⟩), ("smithy.api#String", ⟨1⟩), ("ns#Groups", ⟨2⟩), ("ns#Leaves", ⟨4⟩)] ∧
    m.registry.shapes.keys = ["ns#Tree", "ns#Leaves", "ns#Groups", "smithy.api#String"] := by
  have index : (ofJson groveDocument).toOption.map (fun m => m.index.entries) =
      some [("ns#Tree", ⟨0⟩), ("smithy.api#String", ⟨1⟩), ("ns#Groups", ⟨2⟩),
        ("ns#Leaves", ⟨4⟩)] := by
    decide +kernel
  obtain ⟨m, compiled, entries⟩ := Option.map_eq_some_iff.1 index
  rw [toOption_eq_some_iff] at compiled
  obtain ⟨r, load, order, visited, -, -, -, keys, -⟩ := ofJson_traverse compiled
  have declared := order _ groveDocument_regular rfl
  refine ⟨m, r, compiled, load, declared, visited.symm.trans entries, ?_⟩
  rw [keys, Traversal.ids, ← visited, entries, declared]
  decide

end CompiledModel

end ShapeSchema
