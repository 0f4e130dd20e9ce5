import ShapeSchema.Model.Registry
import ShapeSchema.Schema.Constraint

/-!
# `ShapeSchema.Schema.Compiler`: shapes into nodes

A compiler owns a registry, an arena of nodes and an index from shape ids to their nodes. Before the
node of a shape is built its place in the arena is taken by a forward node, and the id is indexed,
so a member that leads back to the shape gets the reference at once. When the node is built it
replaces the forward node, and every reference handed out meanwhile leads to it.

A failed compilation gives back everything it took: it cuts arena, index and diagnostics off where
they ended when it began. Only the registry keeps the prelude shapes that were looked up.

A shape is compiled in two parts: the slots it needs references for, in order (`Shape.slots`), and
the node made of those references (`Shape.node`). Compilations nest only through the slots of
declared shapes that are not yet indexed, so `Registry.nesting` bounds their depth.
-/

set_option autoImplicit false

namespace ShapeSchema

/-- Something that compilation recovered from. -/
structure Diagnostic where
  shape : String
  message : String
  deriving DecidableEq, Repr

/-- What a node needs a reference to: the node of a shape, or a plain string of its own. -/
inductive Slot where
  | shape (id : String)
  | plainString
  deriving DecidableEq, Repr

namespace Shape

/-- The references that the node of a shape is made of, in the order in which they are compiled. -/
def slots (s : Shape) : List Slot :=
  match s.kind with
  | .record | .resource | .union => s.members.values.map fun m => .shape m.target
  | .list | .set => s.element.toList.map .shape
  | .map => (s.key.elim .plainString .shape) :: s.value.toList.map .shape
  | _ => []

/-- The node of a string or document: an enum trait is more specific than all others and puts them
aside. A rejected pattern leaves a diagnostic. -/
def stringNode (s : Shape) : Except Defect (Node × List Diagnostic) :=
  match Trait.enum? s.traits with
  | some values => .ok (.enumeration values, [])
  | none => do
    let c ← stringConstraint s.id s.traits
    let diagnostics := c.rejected.toList.map fun r =>
      (⟨s.id, s!"pattern `{r.source}` dropped: {r.reason}"⟩ : Diagnostic)
    return (.string c.pattern c.length none, diagnostics)

/-- The node of a number. -/
def numberNode (s : Shape) (integer : Bool) : Except Defect (Node × List Diagnostic) := do
  let range ← rangeConstraint s.id s.traits
  return (.number integer range.min range.max, [])

/-- The node of a shape, given references for its slots. Enumerations list the names of members,
not the literals that stand for them. -/
def node (s : Shape) (refs : List Ref) : Except Defect (Node × List Diagnostic) :=
  match s.kind with
  | .service | .operation | .unsupported _ => .ok (.empty, [])
  | .string | .document => s.stringNode
  | .byte | .short | .integer | .long | .bigInteger => s.numberNode true
  | .float | .double | .bigDecimal => s.numberNode false
  | .boolean => .ok (.boolean, [])
  | .timestamp => .ok (.string none {} (some .dateTime), [])
  | .blob => .ok (.string none {} (some .base64), [])
  | .record | .resource =>
    .ok (.object (s.members.zipWith (fun m ref => ⟨ref, m.required⟩) refs), [])
  | .union => .ok (.union (s.members.zipWith (fun _ ref => ref) refs), [])
  | .enum => .ok (.enumeration s.members.keys, [])
  | .list | .set =>
    -- A shape without an element has no slot, and so no reference.
    match refs with
    | element :: _ => do
      let length ← lengthConstraint s.id s.traits
      return (.array element length, [])
    | [] => .error (.listWithoutMember s.id)
  | .map =>
    match refs with
    | key :: value :: _ => .ok (.dictionary key value, [])
    | _ => .error (.mapWithoutValue s.id)

end Shape

/-- How deep compilations can nest: one for each declared shape, and one for a shape without slots
at the end. -/
def Registry.nesting (r : Registry) : Nat := r.declared + 1

/-- A session: the registry that shapes are looked up in, and what was compiled so far. -/
structure Compiler where
  registry : Registry
  nodes : Array Node := #[]
  /-- The nodes of shapes, in the order in which their places were taken. -/
  index : OrderedMap Ref := {}
  diagnostics : List Diagnostic := []

namespace Compiler

/-- The compiler of a registry, before any call. -/
def start (r : Registry) : Compiler := { registry := r }

/-- Why a compilation stops: an error of the model, or the limit on nesting. -/
inductive Stop where
  | error (e : ModelError)
  | tooDeep

/-- Takes the next place in the arena. -/
def push (c : Compiler) (node : Node) : Ref × Compiler :=
  (⟨c.nodes.size⟩, { c with nodes := c.nodes.push node })

/-- Takes a place for a shape and indexes it. -/
def reserve (c : Compiler) (id : String) : Ref × Compiler :=
  let (ref, c) := c.push (.forward id)
  (ref, { c with index := c.index.insert id ref })

/-- Puts the node of a shape into its place. -/
def complete (c : Compiler) (ref : Ref) (node : Node) (diagnostics : List Diagnostic) : Compiler :=
  { c with nodes := c.nodes.setIfInBounds ref.index node
           diagnostics := c.diagnostics ++ diagnostics }

/-- How far a compiler has got: the lengths of its arena, its index and its diagnostics. -/
structure Mark where
  nodes : Nat
  index : Nat
  diagnostics : Nat
  deriving DecidableEq, Repr

/-- Where the arena, the index and the diagnostics end now. -/
def mark (c : Compiler) : Mark := ⟨c.nodes.size, c.index.size, c.diagnostics.length⟩

/-- Cuts off everything that came after a mark. -/
def rollback (c : Compiler) (m : Mark) : Compiler :=
  { c with nodes := c.nodes.take m.nodes
           index := c.index.take m.index
           diagnostics := c.diagnostics.take m.diagnostics }

/-- The reference of one slot. `visit` compiles a shape. -/
def fillSlot (visit : Compiler → String → Except Stop Ref × Compiler) (c : Compiler) :
    Slot → Except Stop Ref × Compiler
  | .shape id => visit c id
  | .plainString =>
    let (ref, c) := c.push .plainString
    (.ok ref, c)

/-- The references of slots, taken from left to right up to the first error. -/
def fillSlots (visit : Compiler → String → Except Stop Ref × Compiler) (c : Compiler) :
    List Slot → Except Stop (List Ref) × Compiler
  | [] => (.ok [], c)
  | slot :: slots =>
    match fillSlot visit c slot with
    | (.error e, c) => (.error e, c)
    | (.ok ref, c) =>
      match fillSlots visit c slots with
      | (.error e, c) => (.error e, c)
      | (.ok refs, c) => (.ok (ref :: refs), c)

/-- The node of a shape and its diagnostics, the references of its slots compiled first. -/
def lower (visit : Compiler → String → Except Stop Ref × Compiler) (c : Compiler) (shape : Shape) :
    Except Stop (Node × List Diagnostic) × Compiler :=
  match fillSlots visit c shape.slots with
  | (.error e, c) => (.error e, c)
  | (.ok refs, c) => ((shape.node refs).mapError fun defect => .error (.malformed defect), c)

/-- The reference of a shape, compiled now unless it is indexed. Compilations nest up to a depth. -/
def compileWithin (depth : Nat) (c : Compiler) (id : String) : Except Stop Ref × Compiler :=
  match c.index.get? id with
  | some ref => (.ok ref, c)
  | none =>
    match c.registry.resolve id with
    | .error e => (.error (.error e), c)
    | .ok (shape, registry) =>
      let c := { c with registry }
      match shape.kind with
      | .unsupported kind => (.error (.error (.unsupportedShape id kind)), c)
      | _ =>
        match depth with
        | 0 => (.error .tooDeep, c)
        | depth + 1 =>
          -- The place is taken before the targets are compiled, so that a cycle comes back to it.
          let (ref, reserved) := c.reserve id
          match lower (compileWithin depth) reserved shape with
          | (.error e, final) => (.error e, final.rollback c.mark)
          | (.ok (node, diagnostics), final) => (.ok ref, final.complete ref node diagnostics)

/-- The reference of a shape, compiled now unless it is indexed. The limit on nesting is never
reached, so the answer for it does not matter. -/
def compile (c : Compiler) (id : String) : Except ModelError Ref × Compiler :=
  match c.compileWithin c.registry.nesting id with
  | (.ok ref, c) => (.ok ref, c)
  | (.error (.error e), c) => (.error e, c)
  | (.error .tooDeep, c) => (.error (.shapeNotFound id), c)

/-- Compiles shapes one after the other, up to the first error. -/
def compileAll (c : Compiler) : List String → Except ModelError Compiler
  | [] => .ok c
  | id :: ids =>
    match c.compile id with
    | (.ok _, c) => compileAll c ids
    | (.error e, _) => .error e

end Compiler

end ShapeSchema
