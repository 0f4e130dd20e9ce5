import ShapeSchema.Proofs.Compiler.Lowering
import ShapeSchema.Proofs.Compiler.Session

/-!
# `ShapeSchema.Proofs.Compiler.Mirror`: the arena mirrors the shape graph

`Shape.Image` is the table that takes a shape to its node, written out kind by kind: which node a
kind gives, and which shape each of its references belongs to. `session_mirrors` says that after
any calls, failed ones among them, every indexed id has exactly the node that the table gives for
its shape, every reference in it being the one that the index has for the target. So edges of the
arena are edges between shapes, cycles included.
-/

set_option autoImplicit false

namespace ShapeSchema

/-- The node stands for the shape: `named` has the references of shapes, and `loose` tells a plain
string that belongs to none.

The names and the order of members and alternatives are those of the shape. A node of a kind
without members, element, key and value depends on the traits alone, and for an enumeration on the
names of the members. -/
def Shape.Image (named : String → Option Ref) (loose : Ref → Prop) (s : Shape) (node : Node) :
    Prop :=
  match s.kind with
  | .service | .operation => node = .empty
  | .string | .document =>
    match Trait.enum? s.traits with
    | some values => node = .enumeration values
    | none => ∃ c, stringConstraint s.id s.traits = .ok c ∧ node = .string c.pattern c.length none
  | .byte | .short | .integer | .long | .bigInteger =>
    ∃ range, rangeConstraint s.id s.traits = .ok range ∧ node = .number true range.min range.max
  | .float | .double | .bigDecimal =>
    ∃ range, rangeConstraint s.id s.traits = .ok range ∧ node = .number false range.min range.max
  | .boolean => node = .boolean
  | .timestamp => node = .string none {} (some .dateTime)
  | .blob => node = .string none {} (some .base64)
  | .record | .resource =>
    ∃ members, node = .object members ∧
      List.Forall₂ (fun declared member => member.1 = declared.1 ∧
          named declared.2.target = some member.2.node ∧ member.2.required = declared.2.required)
        s.members.entries members.entries
  | .union =>
    ∃ alternatives, node = .union alternatives ∧
      List.Forall₂ (fun declared alternative => alternative.1 = declared.1 ∧
          named declared.2.target = some alternative.2)
        s.members.entries alternatives.entries
  | .enum => node = .enumeration s.members.keys
  | .list | .set =>
    ∃ target element length, s.element = some target ∧ named target = some element ∧
      lengthConstraint s.id s.traits = .ok length ∧ node = .array element length
  | .map =>
    ∃ key target value, (match s.key with | some id => named id = some key | none => loose key) ∧
      s.value = some target ∧ named target = some value ∧ node = .dictionary key value
  | .unsupported _ => False

/-- Joining two related lists relates the first list to the result. -/
theorem forall₂_zipWith {α β γ : Type} {R : α → β → Prop} {S : α → γ → Prop} {f : α → β → γ}
    (step : ∀ a b, R a b → S a (f a b)) {as : List α} {bs : List β} (h : List.Forall₂ R as bs) :
    List.Forall₂ S as (List.zipWith f as bs) := by
  induction h with
  | nil => exact .nil
  | cons head _ ih => exact .cons (step _ _ head) ih

section Image

variable {nodes : Array Node} {index : OrderedMap Ref} {s : Shape} {node : Node}

/-- The references of members, each beside the member that it is for. -/
theorem forall₂_members {refs : List Ref} {members : OrderedMap Member}
    (filled : List.Forall₂ (Fills nodes index)
      (members.values.map fun m => .shape m.target) refs) :
    List.Forall₂ (fun declared ref => index.get? declared.2.target = some ref)
      members.entries refs := by
  rw [OrderedMap.values, List.map_map, List.forall₂_map_left_iff] at filled
  exact filled

/-- The node of a text is an enumeration if the shape has literals. Otherwise it has the constraints
of the traits. -/
theorem image_of_stringNode {diagnostics : List Diagnostic}
    (h : s.stringNode = .ok (node, diagnostics)) :
    match Trait.enum? s.traits with
    | some values => node = .enumeration values
    | none =>
      ∃ c, stringConstraint s.id s.traits = .ok c ∧ node = .string c.pattern c.length none := by
  unfold Shape.stringNode at h
  cases henum : Trait.enum? s.traits with
  | some values =>
    rw [henum] at h
    cases h
    rfl
  | none =>
    rw [henum] at h
    obtain ⟨c, hc, hnode⟩ := except_bind_ok h
    cases hnode
    exact ⟨c, hc, rfl⟩

/-- The node of a number has the bounds of the traits. -/
theorem image_of_numberNode {integer : Bool} {diagnostics : List Diagnostic}
    (h : s.numberNode integer = .ok (node, diagnostics)) :
    ∃ range, rangeConstraint s.id s.traits = .ok range ∧
      node = .number integer range.min range.max := by
  obtain ⟨range, hrange, hnode⟩ := except_bind_ok h
  cases hnode
  exact ⟨range, hrange, rfl⟩

/-- The node that was built from a shape is its image. -/
theorem image_of_built (supported : s.kind.isSupported = true) (built : Built nodes index s node) :
    s.Image index.get? (Loose nodes index) node := by
  obtain ⟨refs, diagnostics, filled, hnode⟩ := built
  unfold Shape.Image
  unfold Shape.node at hnode
  unfold Shape.slots at filled
  cases hkind : s.kind with
  | record | resource =>
    rw [hkind] at hnode filled
    cases hnode
    refine ⟨_, rfl, ?_⟩
    exact forall₂_zipWith (fun _ _ found => ⟨rfl, found, rfl⟩) (forall₂_members filled)
  | union =>
    rw [hkind] at hnode filled
    cases hnode
    refine ⟨_, rfl, ?_⟩
    exact forall₂_zipWith (fun _ _ found => ⟨rfl, found⟩) (forall₂_members filled)
  | service | operation =>
    rw [hkind] at hnode
    cases hnode
    rfl
  | boolean | timestamp | blob | enum =>
    rw [hkind] at hnode
    cases hnode
    rfl
  | string | document =>
    rw [hkind] at hnode
    exact image_of_stringNode hnode
  | byte | short | integer | long | bigInteger | float | double | bigDecimal =>
    rw [hkind] at hnode
    exact image_of_numberNode hnode
  | list | set =>
    rw [hkind] at hnode filled
    dsimp only at hnode filled ⊢
    -- Without an element there is no slot, and no node is made from no references.
    cases helement : s.element with
    | none =>
      rw [helement] at filled
      cases filled
      cases hnode
    | some target =>
      rw [helement] at filled
      obtain _ | ⟨found, rest⟩ := filled
      cases rest
      obtain ⟨length, hlength, hnode⟩ := except_bind_ok hnode
      cases hnode
      exact ⟨target, _, length, rfl, found, hlength, rfl⟩
  | map =>
    rw [hkind] at hnode filled
    dsimp only at hnode filled ⊢
    obtain _ | ⟨foundKey, rest⟩ := filled
    cases hvalue : s.value with
    | none =>
      rw [hvalue] at rest
      cases rest
      cases hnode
    | some target =>
      rw [hvalue] at rest
      obtain _ | ⟨foundValue, rest⟩ := rest
      cases rest
      cases hnode
      -- A map without key has a slot of its own, which no shape names.
      refine ⟨_, target, _, ?_, rfl, foundValue, rfl⟩
      cases hkey : s.key with
      | none =>
        rw [hkey] at foundKey
        exact foundKey
      | some id =>
        rw [hkey] at foundKey
        exact foundKey
  | unsupported kind =>
    rw [hkind] at supported
    cases supported

end Image

/-! ### The arena after any calls -/

/-- Every indexed id has a shape in the registry, and the node at its reference is the image of that
shape, where the index gives the references of targets. -/
def Mirrors (registry : Registry) (nodes : Array Node) (index : OrderedMap Ref) : Prop :=
  ∀ id ref, index.get? id = some ref → ∃ shape node, registry.get? id = some shape ∧
    nodes[ref.index]? = some node ∧ shape.Image index.get? (Loose nodes index) node

/-- A sound arena with nothing pending mirrors the registry. -/
theorem Compiler.Sound.mirrors {c : Compiler} (h : c.Sound []) :
    Mirrors c.registry c.nodes c.index := by
  intro id ref found
  obtain ⟨shape, node, held, supported, placed, built⟩ :=
    h.finished (id, ref) (OrderedMap.get?_eq_some_iff.1 found) List.not_mem_nil
  exact ⟨shape, node, held, placed, image_of_built supported built⟩

/-- No place holds a forward node when nothing is pending. -/
theorem Compiler.Sound.no_forward {c : Compiler} (h : c.Sound []) (i : Nat) (id : String) :
    c.nodes[i]? ≠ some (.forward id) := by
  intro placed
  have inside : i < c.nodes.size := (Array.getElem?_eq_some_iff.1 placed).1
  -- A place has an indexed id, and then a shape gave its node, or it holds a plain string.
  rcases h.taken i inside with indexed | plain
  · obtain ⟨e, he, href⟩ := List.mem_map.1 indexed
    obtain ⟨shape, node, -, -, placed', refs, diagnostics, -, made⟩ :=
      h.finished e he List.not_mem_nil
    rw [href, placed] at placed'
    exact Shape.node_ne_forward made id (Option.some.inj placed').symm
  · rw [placed] at plain
    cases plain

/-- After any calls the arena mirrors the shape graph, in the compiler and in the model that it
leaves: each indexed id has the image of its shape, whose references are those that the index has
for the targets, and no forward node is left. -/
theorem session_mirrors (r : Registry) (ids : List String) :
    let c := Compiler.session r ids
    Mirrors c.registry c.nodes c.index ∧
      (∀ (i : Nat) (id : String), c.nodes[i]? ≠ some (Node.forward id)) ∧
      Mirrors c.finish.registry c.finish.nodes c.finish.index := by
  intro c
  have sound : c.Sound [] := Compiler.session_sound r ids
  exact ⟨sound.mirrors, sound.no_forward, sound.mirrors⟩

end ShapeSchema
