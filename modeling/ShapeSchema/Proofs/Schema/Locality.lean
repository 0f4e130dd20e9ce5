import ShapeSchema.Proofs.Schema.Model

/-!
# `ShapeSchema.Proofs.Schema.Locality`: a shape means what it reaches

The node of a shape is made from that shape and from the nodes of its targets, so what the shape
means is settled by the shapes that a chain of targets leads to (`Registry.Reaches`). Two sessions
agree on a compiled shape as soon as their registries agree on those: `session_twins` gives the
relation, and `standalone_and_violations_local` what follows from it for callers.

Where the node stands in the arena, what else was compiled and in which order, and which calls
failed, all drop out.
-/

set_option autoImplicit false

namespace ShapeSchema

namespace Registry

/-- The registry answers a look-up of the id with this shape. -/
def Resolves (r : Registry) (id : String) (s : Shape) : Prop :=
  ∃ r', r.resolve id = .ok (s, r')

/-- An id resolves to the shape that the registry has for it. -/
theorem resolves_iff {r : Registry} {id : String} {s : Shape} :
    r.Resolves id s ↔ r.shape? id = some s :=
  ⟨fun ⟨_, h⟩ => (resolve_ok h).1, exists_resolve⟩

/-- The ids that a chain of targets leads to: members, elements, keys and values. -/
inductive Reaches (r : Registry) (id : String) : String → Prop
  | refl : Reaches r id id
  | step {x y : String} {s : Shape} (chain : Reaches r id x) (resolved : r.Resolves x s)
      (target : .shape y ∈ s.slots) : Reaches r id y

/-- A chain goes on where another one ends. -/
theorem Reaches.trans {r : Registry} {id x y : String} (first : r.Reaches id x)
    (second : r.Reaches x y) : r.Reaches id y := by
  induction second with
  | refl => exact first
  | step _ resolved target ih => exact .step ih resolved target

/-- What an id reaches is the least set with the id that is closed under targets. -/
theorem Reaches.mem_of_closed {r : Registry} {id x : String} (chain : r.Reaches id x)
    {ids : List String} (start : id ∈ ids)
    (closed : ∀ y ∈ ids, ∀ s ∈ r.shape? y, s.slots ⊆ .plainString :: ids.map .shape) : x ∈ ids := by
  induction chain with
  | refl => exact start
  | step _ resolved target ih =>
    have covered := closed _ ih _ (resolves_iff.1 resolved) target
    simpa using covered

end Registry

namespace Compiler

/-- The shape that a session compiled an id from is the one that the id resolves to. -/
theorem shape?_of_session {r : Registry} {ids : List String} {id : String} {s : Shape}
    (held : (session r ids).registry.get? id = some s) : r.shape? id = some s := by
  rw [← Registry.shape?_of_grows (session_registry r ids), Registry.shape?, held, Option.some_or]

section Twins

variable {r r' : Registry} {id : String}

/-- References with the same meaning: those of an id that is reached, or loose ones. -/
def SameMeaning (r : Registry) (id : String) (c c' : Compiler) (a b : Ref) : Prop :=
  (∃ x, r.Reaches id x ∧ c.index.get? x = some a ∧ c'.index.get? x = some b) ∨
    (Loose c.nodes c.index a ∧ Loose c'.nodes c'.index b)

/-- References that fill the same slots of a shape that is reached have the same meaning. -/
theorem sameMeaning_of_fills {c c' : Compiler} {slots : List Slot}
    (reached : ∀ y, .shape y ∈ slots → r.Reaches id y) {refs refs' : List Ref}
    (filled : List.Forall₂ (Fills c.nodes c.index) slots refs)
    (filled' : List.Forall₂ (Fills c'.nodes c'.index) slots refs') :
    List.Forall₂ (SameMeaning r id c c') refs refs' := by
  induction filled generalizing refs' with
  | nil =>
    cases filled'
    exact .nil
  | @cons slot ref slots refs head rest ih =>
    obtain _ | ⟨head', rest'⟩ := filled'
    refine .cons ?_ (ih (fun y hy => reached y (List.mem_cons_of_mem _ hy)) rest')
    cases slot with
    | shape y => exact .inl ⟨y, reached y List.mem_cons_self, head, head'⟩
    | plainString => exact .inr ⟨head, head'⟩

/-- Sessions on registries that agree on what an id reaches are twins from that id on. -/
theorem session_twins (ids ids' : List String)
    (agree : ∀ x, r.Reaches id x → ∀ s, r.Resolves x s ↔ r'.Resolves x s) :
    Twins (session r ids).finish (session r' ids').finish
      (SameMeaning r id (session r ids) (session r' ids')) where
  node := by
    rintro a b (⟨x, chain, hx, hx'⟩ | ⟨loose, loose'⟩)
    · obtain ⟨s, held, refs, d, filled, hnode⟩ := (session_sound r ids).built hx
      obtain ⟨s', held', refs', d', filled', hnode'⟩ := (session_sound r' ids').built hx'
      -- Both sessions compiled the same shape, since the registries agree on the id.
      have resolved : r.Resolves x s := Registry.resolves_iff.2 (shape?_of_session held)
      have same : s = s' := by
        have resolved' := Registry.resolves_iff.1 ((agree x chain s).1 resolved)
        rw [shape?_of_session held'] at resolved'
        exact (Option.some.inj resolved').symm
      subst same
      refine Shape.node_alike (sameMeaning_of_fills ?_ filled filled') hnode hnode'
      exact fun y target => .step chain resolved target
    · -- The key of a map that declares none: a plain string in either arena.
      rw [loose.finish.1, loose'.finish.1]
      exact .leaf rfl
  shapeId? := by
    rintro a b (⟨x, -, hx, hx'⟩ | ⟨loose, loose'⟩)
    · rw [(session_sound r ids).shapeId? hx, (session_sound r' ids').shapeId? hx']
    · rw [loose.finish.2, loose'.finish.2]

end Twins

/-- What a compiled shape means depends on the shapes that it reaches, and on nothing else.

Take any two registries and any two sessions on them that leave `id` compiled. If every id that
`id` reaches resolves to the same shape in both registries, then the two models give the node of
`id` the same schema, with the same definitions in the same order, and find the same violations in
every value, in the same order. -/
theorem standalone_and_violations_local (r r' : Registry) (ids ids' : List String) (id : String)
    (a b : Ref) (compiled : (session r ids).finish.get? id = some a)
    (compiled' : (session r' ids').finish.get? id = some b)
    (agree : ∀ x, r.Reaches id x → ∀ s, r.Resolves x s ↔ r'.Resolves x s) :
    (session r ids).finish.standalone a = (session r' ids').finish.standalone b ∧
      ∀ value : Json,
        (session r ids).finish.violations a value =
          (session r' ids').finish.violations b value := by
  have twins := session_twins ids ids' agree
  have related : SameMeaning r id (session r ids) (session r' ids') a b :=
    .inl ⟨id, .refl, compiled, compiled'⟩
  exact ⟨twins.standalone related, fun value => twins.violations value a b related⟩

/-! ### Trees compiled twice -/

/-- A tree has a label and a list of trees. -/
def treeShape : Shape where
  id := "ns#Tree"
  kind := .record
  members := .ofList
    [("label", ⟨"smithy.api#String", true, []⟩), ("children", ⟨"ns#Trees", false, []⟩)]

/-- The list of the trees below a tree. -/
def treesShape : Shape where
  id := "ns#Trees"
  kind := .list
  members := .empty
  element := some "ns#Tree"

/-- A registry of trees and nothing else. -/
def treeRegistry : Registry where
  shapes := .ofList [("ns#Tree", treeShape), ("ns#Trees", treesShape)]
  declared := 2

/-- A registry with trees among other shapes, in another order. -/
def orchardRegistry : Registry where
  shapes := .ofList
    [("ns#Age", { id := "ns#Age", kind := .integer, members := .empty }),
     ("ns#Trees", treesShape),
     ("ns#Orchard",
      { id := "ns#Orchard", kind := .map, members := .empty, value := some "ns#Missing" }),
     ("ns#Tree", treeShape)]
  declared := 4

/-- The ids that a tree reaches. -/
def treeIds : List String := ["ns#Tree", "ns#Trees", "smithy.api#String"]

/-- Trees mean the same where they are compiled alone, and where a failed call, another shape and
their own list come first: the node stands at place 0 in one arena and at place 2 in the other. -/
theorem trees_mean_the_same :
    (session treeRegistry ["ns#Tree"]).finish.get? "ns#Tree" = some ⟨0⟩ ∧
      (session orchardRegistry ["ns#Orchard", "ns#Age", "ns#Trees"]).finish.get? "ns#Tree" =
        some ⟨2⟩ ∧
      (session treeRegistry ["ns#Tree"]).finish.standalone ⟨0⟩ =
        (session orchardRegistry ["ns#Orchard", "ns#Age", "ns#Trees"]).finish.standalone ⟨2⟩ := by
  have compiled : (session treeRegistry ["ns#Tree"]).finish.get? "ns#Tree" = some ⟨0⟩ := by
    decide +kernel
  have compiled' : (session orchardRegistry ["ns#Orchard", "ns#Age", "ns#Trees"]).finish.get?
      "ns#Tree" = some ⟨2⟩ := by
    decide +kernel
  -- The ids that are reached are among these, and the two registries have the same shapes for them.
  have closed : ∀ y ∈ treeIds, ∀ s ∈ treeRegistry.shape? y,
      s.slots ⊆ .plainString :: treeIds.map .shape := by
    decide +kernel
  have same : ∀ y ∈ treeIds, treeRegistry.shape? y = orchardRegistry.shape? y := by
    decide +kernel
  refine ⟨compiled, compiled', ?_⟩
  refine (standalone_and_violations_local treeRegistry orchardRegistry ["ns#Tree"]
    ["ns#Orchard", "ns#Age", "ns#Trees"] "ns#Tree" ⟨0⟩ ⟨2⟩ compiled compiled' ?_).1
  intro x chain s
  have mem : x ∈ treeIds := chain.mem_of_closed (by decide) closed
  rw [Registry.resolves_iff, Registry.resolves_iff, same x mem]

end Compiler

end ShapeSchema
