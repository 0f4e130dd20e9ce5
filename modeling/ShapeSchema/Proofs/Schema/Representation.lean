import ShapeSchema.Proofs.Compiler.Layout
import ShapeSchema.Proofs.Schema.Model

/-!
# `ShapeSchema.Proofs.Schema.Representation`: arena and index fit together

`Arranged` says how a set of shapes stands in an arena: ids have their places in ascending order,
references lead into the arena, and a place without id is the key of one dictionary. Every session
leaves its compiler so (`session_arranged`).

Then nothing that is read through a reference can lie outside the arena. That is put as follows:
whatever stands behind the arena (`CompiledModel.widen`), the answers of the model stay the same.
-/

set_option autoImplicit false

namespace ShapeSchema

/-- Arena and index fit together.

- `ascending`: the places of ids ascend in the order of the index, so no two ids share one;
- `inside`: they lie in the arena;
- `closed`: every reference in a node leads into the arena;
- `taken`: every place has exactly one id, or it has none, holds a string without constraints, and
  is the key of exactly one dictionary. -/
structure Arranged (nodes : Array Node) (index : OrderedMap Ref) : Prop where
  ascending : index.values.Pairwise fun a b => a.index < b.index
  inside : ∀ id ref, index.get? id = some ref → ref.index < nodes.size
  closed : ∀ (i : Nat) (node : Node), nodes[i]? = some node →
    ∀ child ∈ node.children, child.index < nodes.size
  taken : ∀ i < nodes.size, (∃! id, index.get? id = some ⟨i⟩) ∨
    ⟨i⟩ ∉ index.values ∧ nodes[i]? = some .plainString ∧
      ∃! j : Nat, ∃ value, nodes[j]? = some (Node.dictionary ⟨i⟩ value)

/-- A sound arena with nothing pending, its places paired, is arranged. -/
theorem Compiler.Sound.arranged {c : Compiler} (sound : c.Sound []) (paired : c.Paired) :
    Arranged c.nodes c.index where
  ascending := List.pairwise_map.2 sound.ascending
  inside id ref indexed := sound.inside (id, ref) (OrderedMap.get?_eq_some_iff.1 indexed)
  closed i node placed child mem := by
    have hnode : c.finish.node ⟨i⟩ = node := CompiledModel.node_of_getElem? placed
    exact sound.wellFormed.closed ⟨i⟩ child (hnode ▸ mem)
  taken i inside := by
    by_cases indexed : ⟨i⟩ ∈ c.index.values
    · left
      obtain ⟨e, he, href⟩ := List.mem_map.1 indexed
      refine ⟨e.1, OrderedMap.get?_eq_some_iff.2 (href ▸ he), ?_⟩
      intro id found
      have entry : (id, ⟨i⟩) ∈ c.index.entries := OrderedMap.get?_eq_some_iff.1 found
      exact congrArg Prod.fst (sound.place_unique entry he (by rw [href]))
    · right
      exact ⟨indexed, (sound.taken i inside).resolve_left indexed,
        paired.existsUnique_dictionary sound inside indexed⟩

/-! ### Nothing is read behind the arena -/

namespace CompiledModel

/-- The model with other nodes behind its arena. -/
def widen (m : CompiledModel) (beyond : Array Node) : CompiledModel :=
  { m with nodes := m.nodes ++ beyond }

variable {m : CompiledModel} (beyond : Array Node)

/-- Inside the arena stand the same nodes. -/
theorem node_widen {ref : Ref} (inside : ref.index < m.nodes.size) :
    (m.widen beyond).node ref = m.node ref := by
  rw [node, node, widen, Array.getElem?_append_left inside]

/-- The models are twins inside the arena, where every reference stands for itself. -/
theorem twins_widen (closed : ∀ ref, ∀ child ∈ (m.node ref).children, child.index < m.nodes.size) :
    Twins m (m.widen beyond) fun a b => a = b ∧ a.index < m.nodes.size where
  node := by
    rintro a _ ⟨rfl, inside⟩
    rw [node_widen beyond inside]
    exact .of_children fun child mem => ⟨rfl, closed a child mem⟩
  shapeId? := by
    rintro a _ ⟨rfl, -⟩
    rfl

/-- The schemas of the indexed shapes do not depend on what stands behind the arena. -/
theorem wholeSchema_widen
    (closed : ∀ ref, ∀ child ∈ (m.node ref).children, child.index < m.nodes.size)
    (indexed : ∀ id ref, m.get? id = some ref → ref.index < m.nodes.size) :
    (m.widen beyond).wholeSchema = m.wholeSchema := by
  have entries : (m.index.entries.map fun e =>
      (e.1, Json.object ((m.widen beyond).schemaFields e.2))) =
      m.index.entries.map fun e => (e.1, Json.object (m.schemaFields e.2)) := by
    refine List.map_congr_left fun e he => ?_
    have inside := indexed e.1 e.2 (OrderedMap.get?_eq_some_iff.2 he)
    rw [(twins_widen beyond closed).schemaFields ⟨rfl, inside⟩]
  rw [wholeSchema, wholeSchema, ← entries]
  rfl

/-- What stands behind the arena is not read. -/
theorem schema?_widen (indexed : ∀ id ref, m.get? id = some ref → ref.index < m.nodes.size)
    (id : String) : (m.widen beyond).schema? id = m.schema? id := by
  show (m.get? id).map _ = (m.get? id).map _
  cases found : m.get? id with
  | none => rfl
  | some ref => rw [Option.map_some, Option.map_some, node_widen beyond (indexed id ref found)]

end CompiledModel

/-- The representation of shapes in the arena, after any calls and in the model that they leave.

Arena and index fit together. Every node that leads to others belongs to a shape, and a reference
belongs to a shape exactly if it is the one that the index has for it. And whatever stands behind
the arena, the node and the schema of a reference inside it, the violations that are found from
there, and the schemas of the indexed ids and of the whole model are the same: none of them reads a
place outside. -/
theorem session_arranged (r : Registry) (ids : List String) :
    let c := Compiler.session r ids
    let m := c.finish
    Arranged c.nodes c.index ∧
      (∀ ref, (m.node ref).isAggregate = true → ∃ id, m.shapeId? ref = some id) ∧
      (∀ id ref, m.shapeId? ref = some id ↔ m.get? id = some ref) ∧
      ∀ beyond : Array Node,
        (m.widen beyond).wholeSchema = m.wholeSchema ∧
        (∀ id, (m.widen beyond).schema? id = m.schema? id) ∧
        ∀ ref, ref.index < c.nodes.size →
          (m.widen beyond).node ref = m.node ref ∧
          (m.widen beyond).standalone ref = m.standalone ref ∧
          ∀ value, (m.widen beyond).violations ref value = m.violations ref value := by
  intro c m
  have sound : c.Sound [] := Compiler.session_sound r ids
  have arranged := sound.arranged (Compiler.session_paired r ids)
  have wellFormed : m.WellFormed := sound.wellFormed
  refine ⟨arranged, fun ref aggregate => ?_, fun id ref => ?_, fun beyond => ?_⟩
  · exact Option.isSome_iff_exists.1 (wellFormed.named ref aggregate)
  · exact ⟨CompiledModel.get?_of_shapeId?, sound.shapeId?⟩
  · have twins := CompiledModel.twins_widen beyond wellFormed.closed
    refine ⟨CompiledModel.wholeSchema_widen beyond wellFormed.closed arranged.inside,
      CompiledModel.schema?_widen beyond arranged.inside, fun ref inside => ?_⟩
    exact ⟨CompiledModel.node_widen beyond inside, (twins.standalone ⟨rfl, inside⟩).symm,
      fun value => (twins.violations value ref ref ⟨rfl, inside⟩).symm⟩

/-- A registry with a structure and a map without key that lead to each other, and a structure with
the map and with a shape that is nowhere. -/
def catalogRegistry : Registry where
  shapes := .ofList
    [("ns#Catalog",
      { id := "ns#Catalog"
        kind := .record
        members := .ofList [("topics", ⟨"ns#Topics", true, []⟩)] }),
     ("ns#Topics",
      { id := "ns#Topics", kind := .map, members := .empty, value := some "ns#Catalog" }),
     ("ns#Archive",
      { id := "ns#Archive"
        kind := .record
        members := .ofList
          [("topics", ⟨"ns#Topics", true, []⟩), ("shelf", ⟨"ns#Shelf", true, []⟩)] })]
  declared := 3

/-- After a failed call the catalog has place 0 and its map place 1. Place 2 has no id and is the
key of that map, and the schema of the catalog does not read what stands behind it. -/
theorem catalog_arranged :
    let c := Compiler.session catalogRegistry ["ns#Archive", "ns#Catalog"]
    let m := c.finish
    c.index.entries = [("ns#Catalog", ⟨0⟩), ("ns#Topics", ⟨1⟩)] ∧ c.nodes.size = 3 ∧
      (∃! j : Nat, ∃ value, c.nodes[j]? = some (Node.dictionary ⟨2⟩ value)) ∧
      (∃ id, m.shapeId? ⟨1⟩ = some id) ∧
      (m.widen #[.forward "ns#Shelf"]).standalone ⟨0⟩ = m.standalone ⟨0⟩ := by
  intro c m
  have entries : c.index.entries = [("ns#Catalog", ⟨0⟩), ("ns#Topics", ⟨1⟩)] := by
    decide +kernel
  have size : c.nodes.size = 3 := by decide +kernel
  obtain ⟨arranged, named, -, outside⟩ :=
    session_arranged catalogRegistry ["ns#Archive", "ns#Catalog"]
  refine ⟨entries, size, ?_, named ⟨1⟩ (by decide +kernel), ?_⟩
  · -- The third place has no id, so it is the key of a dictionary.
    have unindexed : (⟨2⟩ : Ref) ∉ c.index.values := by
      rw [OrderedMap.values, entries]
      decide
    rcases arranged.taken 2 (by rw [size]; decide) with ⟨id, indexed, -⟩ | ⟨-, -, key⟩
    · exact absurd (List.mem_map.2 ⟨_, OrderedMap.get?_eq_some_iff.1 indexed, rfl⟩) unindexed
    · exact key
  · exact ((outside #[.forward "ns#Shelf"]).2.2 ⟨0⟩ (by rw [size]; decide)).2.1

end ShapeSchema
