import ShapeSchema.Schema.Compiler

/-!
# `ShapeSchema.Schema.Model`: compiled models

A compiled model is what a compiler leaves: the registry, the arena, the index in order of
compilation, and the diagnostics. `CompiledModel.ofJson` compiles every declared shape of a
document, or none.
-/

set_option autoImplicit false

namespace ShapeSchema

/-- What a session has made: an arena of nodes, and an index from ids to places in it. -/
structure CompiledModel where
  registry : Registry
  nodes : Array Node
  index : OrderedMap Ref
  diagnostics : List Diagnostic

/-- Ends compilation. -/
def Compiler.finish (c : Compiler) : CompiledModel := ⟨c.registry, c.nodes, c.index, c.diagnostics⟩

namespace CompiledModel

/-- Compiles every declared shape. -/
def ofRegistry (r : Registry) : Except ModelError CompiledModel := do
  return (← (Compiler.start r).compileAll r.declaredIds).finish

/-- Compiles the model of a document. -/
def ofJson (document : Json) : Except ModelError CompiledModel := do
  ofRegistry (← Registry.load document)

/-- The reference of a shape. -/
def get? (m : CompiledModel) (id : String) : Option Ref := m.index.get? id

/-- The node of a reference. A reference of another model may lead nowhere, and the empty node
stands for that. -/
def node (m : CompiledModel) (ref : Ref) : Node := (m.nodes[ref.index]?).getD .empty

/-- The node of a shape. -/
def schema? (m : CompiledModel) (id : String) : Option Node := (m.get? id).map m.node

/-- The shape that a node was compiled for. A node made for a map without key has none. -/
def shapeId? (m : CompiledModel) (ref : Ref) : Option String :=
  (m.index.entries.find? fun e => e.2 == ref).map Prod.fst

/-- The ids of the compiled shapes, in order of compilation. -/
def ids (m : CompiledModel) : List String := m.index.keys

/-- How many ids have a node. -/
def size (m : CompiledModel) : Nat := m.index.size

/-- No id has a node. -/
def isEmpty (m : CompiledModel) : Bool := m.index.isEmpty

end CompiledModel

end ShapeSchema
