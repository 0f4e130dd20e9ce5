import ShapeSchema.Proofs.Except
import ShapeSchema.Schema.Compiler

/-!
# `ShapeSchema.Proofs.Compiler.Lowering`: the forms of a node

Which node a shape gives is decided by its kind, and for a text by its enum trait too. Many
properties of an arena ask the other way round: given a node, which shape is it from, and which
constraints or references did it take? `Shape.Gives` lists the forms that a node can have with what
each of them says of its shape, and `Shape.gives_of_node` reads the form off a node that was made.
So a property of one form is a case analysis in which all other forms are gone at once.
-/

set_option autoImplicit false

namespace ShapeSchema

/-- The report of a rejected pattern that was on the shape with this id. -/
def RejectedPattern.report (id : String) (p : RejectedPattern) : Diagnostic :=
  ⟨id, s!"pattern `{p.source}` dropped: {p.reason}"⟩

namespace Shape

/-- What a shape gives when it has these references: a node and the reports that come with it. Every
form says for which kinds it is, and which constraints were read off the traits. -/
inductive Gives (s : Shape) : List Ref → Node → List Diagnostic → Prop
  | empty {refs : List Ref}
      (kind : s.kind = .service ∨ s.kind = .operation ∨ ∃ tag, s.kind = .unsupported tag) :
      Gives s refs .empty []
  | literals {refs : List Ref} {values : List String}
      (kind : s.kind = .string ∨ s.kind = .document) (listed : Trait.enum? s.traits = some values) :
      Gives s refs (.enumeration values) []
  | text {refs : List Ref} {c : StringConstraint}
      (kind : s.kind = .string ∨ s.kind = .document) (unlisted : Trait.enum? s.traits = none)
      (constraint : stringConstraint s.id s.traits = .ok c) :
      Gives s refs (.string c.pattern c.length none)
        (c.rejected.toList.map (RejectedPattern.report s.id))
  | integer {refs : List Ref} {range : Bounds}
      (kind : s.kind ∈ [Kind.byte, .short, .integer, .long, .bigInteger])
      (constraint : rangeConstraint s.id s.traits = .ok range) :
      Gives s refs (.number true range.min range.max) []
  | decimal {refs : List Ref} {range : Bounds}
      (kind : s.kind ∈ [Kind.float, .double, .bigDecimal])
      (constraint : rangeConstraint s.id s.traits = .ok range) :
      Gives s refs (.number false range.min range.max) []
  | boolean {refs : List Ref} (kind : s.kind = .boolean) : Gives s refs .boolean []
  | timestamp {refs : List Ref} (kind : s.kind = .timestamp) :
      Gives s refs (.string none {} (some .dateTime)) []
  | blob {refs : List Ref} (kind : s.kind = .blob) :
      Gives s refs (.string none {} (some .base64)) []
  | object {refs : List Ref} (kind : s.kind = .record ∨ s.kind = .resource) :
      Gives s refs (.object (s.members.zipWith (fun m ref => ⟨ref, m.required⟩) refs)) []
  | union {refs : List Ref} (kind : s.kind = .union) :
      Gives s refs (.union (s.members.zipWith (fun _ ref => ref) refs)) []
  | names {refs : List Ref} (kind : s.kind = .enum) :
      Gives s refs (.enumeration s.members.keys) []
  | array {element : Ref} {refs : List Ref} {length : Length}
      (kind : s.kind = .list ∨ s.kind = .set)
      (constraint : lengthConstraint s.id s.traits = .ok length) :
      Gives s (element :: refs) (.array element length) []
  | dictionary {key value : Ref} {refs : List Ref} (kind : s.kind = .map) :
      Gives s (key :: value :: refs) (.dictionary key value) []

variable {s : Shape} {refs : List Ref} {node : Node} {diagnostics : List Diagnostic}

/-- A text gives its literals, or the constraints of its traits. -/
theorem gives_of_stringNode (kind : s.kind = .string ∨ s.kind = .document)
    (made : s.stringNode = .ok (node, diagnostics)) : s.Gives refs node diagnostics := by
  unfold stringNode at made
  cases values : Trait.enum? s.traits with
  | some _ =>
    rw [values] at made
    cases made
    exact .literals kind values
  | none =>
    rw [values] at made
    obtain ⟨c, constraint, last⟩ := except_bind_ok made
    cases last
    exact .text kind values constraint

/-- A node that was made from a shape has one of the forms. -/
theorem gives_of_node (made : s.node refs = .ok (node, diagnostics)) :
    s.Gives refs node diagnostics := by
  -- Kind by kind: what the branch makes is the form of that kind.
  unfold Shape.node at made
  cases kind : s.kind with
  | service | operation | unsupported =>
    rw [kind] at made
    cases made
    exact .empty (by simp [kind])
  | string | document =>
    rw [kind] at made
    exact gives_of_stringNode (by simp [kind]) made
  | byte | short | integer | long | bigInteger =>
    rw [kind] at made
    obtain ⟨range, constraint, last⟩ := except_bind_ok made
    cases last
    exact .integer (by simp [kind]) constraint
  | float | double | bigDecimal =>
    rw [kind] at made
    obtain ⟨range, constraint, last⟩ := except_bind_ok made
    cases last
    exact .decimal (by simp [kind]) constraint
  | boolean =>
    rw [kind] at made
    cases made
    exact .boolean kind
  | timestamp =>
    rw [kind] at made
    cases made
    exact .timestamp kind
  | blob =>
    rw [kind] at made
    cases made
    exact .blob kind
  | record | resource =>
    rw [kind] at made
    cases made
    exact .object (by simp [kind])
  | union =>
    rw [kind] at made
    cases made
    exact .union kind
  | enum =>
    rw [kind] at made
    cases made
    exact .names kind
  | list | set =>
    rw [kind] at made
    cases refs with
    | nil => cases made
    | cons element rest =>
      obtain ⟨length, constraint, last⟩ := except_bind_ok made
      cases last
      exact .array (by simp [kind]) constraint
  | map =>
    rw [kind] at made
    dsimp only at made
    split at made
    · cases made
      exact .dictionary kind
    · cases made

/-- No shape gives a forward node. -/
theorem node_ne_forward (made : s.node refs = .ok (node, diagnostics)) (id : String) :
    node ≠ .forward id := by
  rintro rfl
  cases gives_of_node made

/-- Objects are the nodes of records and resources. -/
theorem object_iff_of_node (made : s.node refs = .ok (node, diagnostics)) :
    (∃ members, node = .object members) ↔ s.kind = .record ∨ s.kind = .resource := by
  constructor
  · rintro ⟨members, rfl⟩
    cases gives_of_node made with
    | object kind => exact kind
  · intro kind
    have object : s.node refs =
        .ok (.object (s.members.zipWith (fun m ref => ⟨ref, m.required⟩) refs), []) := by
      unfold Shape.node
      rcases kind with kind | kind <;> rw [kind]
    cases made.symm.trans object
    exact ⟨_, rfl⟩

/-- The key of a dictionary is the first reference that it was made of. -/
theorem head?_of_dictionary {key value : Ref}
    (made : s.node refs = .ok (.dictionary key value, diagnostics)) : refs.head? = some key := by
  cases gives_of_node made with
  | dictionary => rfl

/-- The bounds of a number were read off the traits of its shape. -/
theorem rangeConstraint_of_node {integer : Bool} {lo hi : Option Double}
    (made : s.node refs = .ok (.number integer lo hi, diagnostics)) :
    rangeConstraint s.id s.traits = .ok ⟨lo, hi⟩ := by
  cases gives_of_node made with
  | integer kind constraint => exact constraint
  | decimal kind constraint => exact constraint

end Shape

end ShapeSchema
