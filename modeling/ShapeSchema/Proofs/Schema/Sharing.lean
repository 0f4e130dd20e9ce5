import ShapeSchema.Proofs.Schema.Model

/-!
# `ShapeSchema.Proofs.Schema.Sharing`: a reference is for the whole session

A call that answers with a reference hands out a place in the arena, and no later call takes it
back: later calls grow the compiler (`session_grows`), and what a failed one cuts off came after.
So the id keeps its reference, and the node there and all nodes below it stay what they are
(`Compiler.Shared`). Since the places of different ids are different, a reference also says which id
it was handed out for (`session_shares`).
-/

set_option autoImplicit false

namespace ShapeSchema

namespace CompiledModel

/-- What a node leads to depends on the nodes that it leads to. -/
theorem reflTransGen_refers_congr {m m' : CompiledModel} {ref : Ref}
    (same : ∀ place, Relation.ReflTransGen m.Refers ref place → m'.node place = m.node place)
    (place : Ref) :
    Relation.ReflTransGen m'.Refers ref place ↔ Relation.ReflTransGen m.Refers ref place := by
  constructor
  · intro chain
    induction chain with
    | refl => exact .refl
    | tail _ step ih =>
      rw [Refers, same _ ih] at step
      exact ih.tail step
  · intro chain
    induction chain with
    | refl => exact .refl
    | tail earlier step ih =>
      refine ih.tail ?_
      rw [Refers, same _ earlier]
      exact step

end CompiledModel

namespace Compiler

/-- In the later compiler the id has the reference that it has now, and everything below it is as it
is now.

- `again`: a call for the id answers with the reference, and changes nothing;
- `get?`, `shapeId?`: in the model the id and the reference belong to each other;
- `node`: the node of the reference and every node below it are the same;
- `below`: and it leads to the same places. -/
structure Shared (now later : Compiler) (id : String) (ref : Ref) : Prop where
  again : later.compile id = (.ok ref, later)
  get? : later.finish.get? id = some ref
  shapeId? : later.finish.shapeId? ref = some id
  node : ∀ place, Relation.ReflTransGen now.finish.Refers ref place →
    ∃ node, now.nodes[place.index]? = some node ∧ later.nodes[place.index]? = some node
  below : ∀ place, Relation.ReflTransGen later.finish.Refers ref place ↔
    Relation.ReflTransGen now.finish.Refers ref place

/-- Every chain of references from an indexed id stays inside the arena. -/
theorem Sound.inside_of_chain {c : Compiler} (h : c.Sound []) {id : String} {ref place : Ref}
    (indexed : c.index.get? id = some ref)
    (chain : Relation.ReflTransGen c.finish.Refers ref place) : place.index < c.nodes.size := by
  cases chain with
  | refl => exact h.inside (id, ref) (OrderedMap.get?_eq_some_iff.1 indexed)
  | tail _ step => exact h.wellFormed.closed _ _ step

/-- What a compiler has indexed is shared with every compiler that grows out of it. -/
theorem Sound.shared {now later : Compiler} (h : now.Sound []) (h' : later.Sound [])
    (grown : now.Grows later) {id : String} {ref : Ref} (indexed : now.index.get? id = some ref) :
    Shared now later id ref := by
  have kept : later.index.get? id = some ref := grown.get? indexed
  have inside : ∀ place, Relation.ReflTransGen now.finish.Refers ref place →
      place.index < now.nodes.size := fun _ => h.inside_of_chain indexed
  refine ⟨compile_of_indexed kept, kept, h'.shapeId? kept, ?_, ?_⟩
  · intro place chain
    have placed := Array.getElem?_eq_getElem (inside place chain)
    exact ⟨_, placed, (grown.node (inside place chain)).trans placed⟩
  · refine CompiledModel.reflTransGen_refers_congr fun place chain => ?_
    show (later.nodes[place.index]?).getD _ = (now.nodes[place.index]?).getD _
    rw [grown.node (inside place chain)]

/-- References are stable for a whole session.

Once a call for `x` has answered with a reference, then after any further calls, failed ones among
them, `x` has the same reference, and the node there and all nodes that it leads to are the same. So
it is for every id that the call left indexed. And whenever a call answers with that reference, it
is a call for `x`. -/
theorem session_shares (r : Registry) (ids : List String) (x : String) (ref : Ref)
    (answer : ((session r ids).compile x).1 = .ok ref) (further : List String) :
    let now := session r (ids ++ [x])
    let later := session r (ids ++ [x] ++ further)
    Shared now later x ref ∧
      (∀ id place, now.index.get? id = some place → Shared now later id place) ∧
      ∀ y, (later.compile y).1 = .ok ref → y = x := by
  intro now later
  have hnow : now.Sound [] := session_sound r (ids ++ [x])
  have hlater : later.Sound [] := session_sound r (ids ++ [x] ++ further)
  have grown : now.Grows later := session_grows r (ids ++ [x]) further
  have indexed : now.index.get? x = some ref := by
    have := indexed_of_compile (session_sound r ids) answer
    rwa [← session_append] at this
  refine ⟨hnow.shared hlater grown indexed, fun _ _ => hnow.shared hlater grown, ?_⟩
  intro y answer'
  -- After the call for `y` both ids have the place, and no two ids share one.
  have first : (x, ref) ∈ (later.compile y).2.index.entries :=
    OrderedMap.get?_eq_some_iff.1 ((grown.trans (compile_grows later y)).get? indexed)
  have second : (y, ref) ∈ (later.compile y).2.index.entries :=
    OrderedMap.get?_eq_some_iff.1 (indexed_of_compile hlater answer')
  exact congrArg Prod.fst ((compile_sound hlater y).place_unique second first rfl)

/-! ### A list that is shared -/

/-- A registry with a list of structures that lead back to it, and a structure with the list and
with a shape that is nowhere. -/
def routeRegistry : Registry where
  shapes := .ofList
    [("ns#Stop",
      { id := "ns#Stop"
        kind := .record
        members := .ofList
          [("name", ⟨"smithy.api#String", true, []⟩), ("next", ⟨"ns#Stops", false, []⟩)] }),
     ("ns#Stops",
      { id := "ns#Stops", kind := .list, members := .empty, element := some "ns#Stop" }),
     ("ns#Route",
      { id := "ns#Route"
        kind := .record
        members := .ofList
          [("stops", ⟨"ns#Stops", true, []⟩), ("line", ⟨"ns#Line", true, []⟩)] })]
  declared := 3

/-- The list has place 0, and a stop, which was compiled on the way, place 1. A call for the route,
which has the list among its members, fails, and the places stay theirs. -/
theorem stops_shared :
    let now := session routeRegistry ["ns#Route", "ns#Stops"]
    let later := session routeRegistry ["ns#Route", "ns#Stops", "ns#Route", "smithy.api#Integer"]
    Shared now later "ns#Stops" ⟨0⟩ ∧ Shared now later "ns#Stop" ⟨1⟩ ∧
      ∀ y, (later.compile y).1 = .ok ⟨0⟩ → y = "ns#Stops" := by
  have found : ((session routeRegistry ["ns#Route"]).compile "ns#Stops").1.toOption = some ⟨0⟩ := by
    decide +kernel
  have answer : ((session routeRegistry ["ns#Route"]).compile "ns#Stops").1 = .ok ⟨0⟩ := by
    generalize ((session routeRegistry ["ns#Route"]).compile "ns#Stops").1 = result at found ⊢
    cases result with
    | error e => cases found
    | ok ref => exact congrArg Except.ok (Option.some.inj found)
  obtain ⟨list, others, only⟩ := session_shares routeRegistry ["ns#Route"] "ns#Stops" ⟨0⟩ answer
    ["ns#Route", "smithy.api#Integer"]
  exact ⟨list, others "ns#Stop" ⟨1⟩ (by decide +kernel), only⟩

end Compiler

end ShapeSchema
