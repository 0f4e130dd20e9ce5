import Mathlib.Logic.Relation
import ShapeSchema.Proofs.Compiler.Session
import ShapeSchema.Proofs.Model.Settled
import ShapeSchema.Schema.Tool

/-!
# `ShapeSchema.Proofs.Schema.Spelling`: a model does not depend on its spelling

The compiler looks at the traits of a shape through look-ups by name only, and at the traits of a
member not at all. So settling the shapes of its registry changes nothing that it does: each step of
the settled compiler is the settled step (`compileWithin_settled`). Two spellings of a model have
the same settled registry, and hence compile to the same nodes, index and diagnostics
(`ofJson_of_spellings`).
-/

set_option autoImplicit false

namespace ShapeSchema

/-! ### Shapes -/

namespace Shape

variable (s : Shape)

/-- Settling keeps the kind. -/
@[simp] theorem kind_settled : s.settled.kind = s.kind := rfl

/-- Settling keeps the slots, for it keeps every target. -/
@[simp] theorem slots_settled : s.settled.slots = s.slots := by
  have targets : (s.members.map Member.settled).values.map (fun m => Slot.shape m.target) =
      s.members.values.map fun m => Slot.shape m.target := by
    simp [OrderedMap.values, OrderedMap.map, Member.settled]
  rw [slots, slots]
  cases hkind : s.kind <;> simp [settled, hkind, targets]

/-- The bounds of a length are asked for by name. -/
theorem lengthConstraint_settled (shape : String) (traits : List Trait) :
    lengthConstraint shape (Trait.settled traits) = lengthConstraint shape traits := by
  simp [lengthConstraint]

/-- So are a pattern and the length of a text. -/
theorem stringConstraint_settled (shape : String) (traits : List Trait) :
    stringConstraint shape (Trait.settled traits) = stringConstraint shape traits := by
  simp [stringConstraint, lengthConstraint_settled]

/-- So are the bounds of a range. -/
theorem rangeConstraint_settled (shape : String) (traits : List Trait) :
    rangeConstraint shape (Trait.settled traits) = rangeConstraint shape traits := by
  simp [rangeConstraint]

/-- A settled shape has the node of the shape. -/
@[simp] theorem node_settled (refs : List Ref) : s.settled.node refs = s.node refs := by
  have strings : s.settled.stringNode = s.stringNode := by
    simp [stringNode, settled, stringConstraint_settled]
  have numbers (integer : Bool) : s.settled.numberNode integer = s.numberNode integer := by
    simp [numberNode, settled, rangeConstraint_settled]
  have lengths : lengthConstraint s.settled.id s.settled.traits = lengthConstraint s.id s.traits :=
    lengthConstraint_settled _ _
  unfold node
  rw [kind_settled, strings, numbers, numbers, lengths]
  cases s.kind <;> simp [settled, Member.settled]

/-- A shape of the prelude has no traits to settle. -/
theorem settled_ofPrelude (id : String) (kind : Kind) :
    (ofPrelude id kind).settled = ofPrelude id kind := rfl

end Shape

/-! ### Compilers -/

/-- A look-up in the settled registry finds the settled shape, and leaves the settled registry. -/
theorem Registry.resolve_settled (r : Registry) (id : String) :
    r.settled.resolve id = (r.resolve id).map fun found => (found.1.settled, found.2.settled) := by
  rw [resolve, resolve]
  have stored : r.settled.get? id = (r.get? id).map Shape.settled := OrderedMap.get?_map _ _ id
  rw [stored]
  cases r.get? id with
  | some shape => rfl
  | none =>
    cases builtinKind? id with
    | none => rfl
    | some kind =>
      -- The shape that is added has no traits, so it is settled already.
      have grown := OrderedMap.map_insert Shape.settled r.shapes id (Shape.ofPrelude id kind)
      rw [Shape.settled_ofPrelude] at grown
      simp only [Option.map_none, Except.map, Shape.settled_ofPrelude, settled, grown]

namespace Compiler

/-- The compiler of the settled registry, with everything else as it stands. -/
def settled (c : Compiler) : Compiler := { c with registry := c.registry.settled }

/-- The result of a step, its compiler settled. -/
def settledResult {α : Type} (result : α × Compiler) : α × Compiler := (result.1, result.2.settled)

section Slots

variable {visit : Compiler → String → Except Stop Ref × Compiler}

/-- Filling slots is a settled step if visits are. -/
theorem fillSlots_settled (step : ∀ c id, visit c.settled id = settledResult (visit c id))
    (slots : List Slot) (c : Compiler) :
    fillSlots visit c.settled slots = settledResult (fillSlots visit c slots) := by
  induction slots generalizing c with
  | nil => rfl
  | cons slot slots ih =>
    have head : fillSlot visit c.settled slot = settledResult (fillSlot visit c slot) := by
      cases slot with
      | shape id => exact step c id
      | plainString => rfl
    rw [fillSlots, fillSlots, head]
    obtain ⟨answer, next⟩ := fillSlot visit c slot
    cases answer with
    | error stop => rfl
    | ok ref =>
      simp only [settledResult]
      rw [ih next]
      obtain ⟨answer, last⟩ := fillSlots visit next slots
      cases answer <;> rfl

/-- Lowering a shape is a settled step if visits are. -/
theorem lower_settled (step : ∀ c id, visit c.settled id = settledResult (visit c id))
    (c : Compiler) (shape : Shape) :
    lower visit c.settled shape.settled = settledResult (lower visit c shape) := by
  rw [lower, lower, Shape.slots_settled, fillSlots_settled step]
  obtain ⟨answer, next⟩ := fillSlots visit c shape.slots
  cases answer with
  | error stop => rfl
  | ok refs => simp [settledResult]

end Slots

/-- What a compiler does with the settled registry is what it does with its own. -/
theorem compileWithin_settled (depth : Nat) (c : Compiler) (id : String) :
    compileWithin depth c.settled id = settledResult (compileWithin depth c id) := by
  induction depth using Nat.strongRecOn generalizing c id with
  | ind depth ih =>
    generalize hrun : compileWithin depth c id = result
    have outcome := compileWithin_outcome depth c id
    rw [hrun] at outcome
    have found := Registry.resolve_settled c.registry id
    cases outcome with
    | hit indexed => exact compileWithin_of_indexed (c := c.settled) indexed
    | missing unindexed notFound =>
      rw [notFound] at found
      exact compileWithin_of_missing (c := c.settled) unindexed found
    | unsupported unindexed resolved unknown =>
      rw [resolved] at found
      exact compileWithin_of_unsupported (c := c.settled) unindexed found unknown
    | tooDeep unindexed resolved supported =>
      rw [resolved] at found
      exact compileWithin_zero (c := c.settled) unindexed found supported
    | @failed depth _ _ _ shape registry _ unindexed resolved supported lowered
    | @built depth _ _ _ shape registry _ _ unindexed resolved supported lowered =>
      rw [resolved] at found
      have step := lower_settled (ih depth (Nat.lt_succ_self _)) (c.enter registry id) shape
      rw [lowered] at step
      -- Entering a shape and putting its documentation aside commute.
      have entered : c.settled.enter registry.settled id = (c.enter registry id).settled := rfl
      rw [compileWithin_succ (c := c.settled) unindexed found supported, entered, step]
      rfl

/-- A call on the settled compiler is the settled call. -/
theorem compile_settled (c : Compiler) (id : String) :
    c.settled.compile id = settledResult (c.compile id) := by
  have depth : c.settled.registry.nesting = c.registry.nesting := rfl
  rw [compile_eq, compile_eq, depth, compileWithin_settled]
  rfl

/-- So are calls for any ids, up to the first that fails. -/
theorem compileAll_settled (ids : List String) (c : Compiler) :
    c.settled.compileAll ids = (c.compileAll ids).map settled := by
  induction ids generalizing c with
  | nil => rfl
  | cons id ids ih =>
    rw [compileAll, compileAll, compile_settled]
    obtain ⟨answer, next⟩ := c.compile id
    cases answer with
    | error e => rfl
    | ok ref => exact ih next

end Compiler

/-! ### Models -/

namespace CompiledModel

/-- The model with its registry settled. -/
def settled (m : CompiledModel) : CompiledModel := { m with registry := m.registry.settled }

/-- The model of the settled registry is the settled model. -/
theorem ofRegistry_settled (r : Registry) :
    ofRegistry r.settled = (ofRegistry r).map settled := by
  have declared : r.settled.declaredIds = r.declaredIds := by
    simp [Registry.declaredIds, Registry.settled]
  have start : Compiler.start r.settled = (Compiler.start r).settled := rfl
  rw [ofRegistry, ofRegistry, declared, start, Compiler.compileAll_settled]
  cases (Compiler.start r).compileAll r.declaredIds <;> rfl

/-- The documentation of shapes and members is among what settling keeps. -/
theorem documentation?_settled (m : CompiledModel) (id : String) :
    m.settled.documentation? id = m.documentation? id := by
  have stored (id : String) : m.settled.registry.get? id = (m.registry.get? id).map Shape.settled :=
    OrderedMap.get?_map _ _ id
  rw [documentation?, documentation?]
  cases Text.splitAtFirst '$' id with
  | none =>
    simp only [stored]
    cases m.registry.get? id <;> simp [Shape.settled]
  | some parts =>
    obtain ⟨shape, member⟩ := parts
    simp only [stored]
    cases m.registry.get? shape with
    | none => rfl
    | some found =>
      cases hm : found.members.get? member <;> simp [Shape.settled, Member.settled, hm]

/-- Two spellings of a model compile together, and to models that are settled alike. -/
theorem ofJson_settled {document document' : Json} (h : Spelling.Model document document') :
    (ofJson document).toOption.map settled = (ofJson document').toOption.map settled := by
  -- The documentation is put aside before or after compiling, with the same result.
  have compiled (r : Registry) :
      (ofRegistry r).toOption.map settled = (ofRegistry r.settled).toOption := by
    rw [ofRegistry_settled, toOption_map]
  have loaded := h.load_settled
  rw [ofJson, ofJson, toOption_bind, toOption_bind]
  cases load : (Registry.load document).toOption with
  | none =>
    rw [load] at loaded
    cases load' : (Registry.load document').toOption with
    | none => rfl
    | some => rw [load'] at loaded; cases loaded
  | some r =>
    rw [load] at loaded
    cases load' : (Registry.load document').toOption with
    | none => rw [load'] at loaded; cases loaded
    | some r' =>
      rw [load'] at loaded
      cases loaded with | some same
      rw [Option.bind_some, Option.bind_some, compiled, compiled, same]

/-- Documents that are respelled step by step compile to the same nodes, index and diagnostics, with
the same documentation, or all of them fail to compile. -/
theorem ofJson_of_spellings {document document' : Json}
    (h : Relation.ReflTransGen Spelling.Model document document') :
    ((∃ m, ofJson document = .ok m) ↔ ∃ m', ofJson document' = .ok m') ∧
      ∀ m m', ofJson document = .ok m → ofJson document' = .ok m' →
        m.nodes = m'.nodes ∧ m.index = m'.index ∧ m.diagnostics = m'.diagnostics ∧
          ∀ id, m.documentation? id = m'.documentation? id := by
  have same : (ofJson document).toOption.map settled = (ofJson document').toOption.map settled := by
    -- Step by step along the chain. What the two models share is then read off the settled model.
    induction h with
    | refl => rfl
    | tail _ step ih => exact ih.trans (ofJson_settled step)
  constructor
  · have isSome := congrArg Option.isSome same
    rw [Option.isSome_map, Option.isSome_map, Bool.eq_iff_iff] at isSome
    simpa [Option.isSome_iff_exists, toOption_eq_some_iff] using isSome
  · intro m m' compiled compiled'
    rw [compiled, compiled'] at same
    have settled_eq : m.settled = m'.settled := Option.some.inj same
    have nodes : m.settled.nodes = m'.settled.nodes := by rw [settled_eq]
    have index : m.settled.index = m'.settled.index := by rw [settled_eq]
    have diagnostics : m.settled.diagnostics = m'.settled.diagnostics := by rw [settled_eq]
    refine ⟨nodes, index, diagnostics, fun id => ?_⟩
    rw [← documentation?_settled, settled_eq, documentation?_settled]

end CompiledModel

/-! ### A model in two spellings -/

namespace Paint

/-- The document of a palette and a thing that has one of its colors. -/
def document (color car : Json) : Json :=
  .object [("shapes", .object [("ns#Color", color), ("ns#Car", car)])]

/-- An enumeration, with a trait that denotes nothing beside its literals. -/
def color : Json :=
  .object [("type", .string "string"),
    ("traits", .object [("enum", .array [.string "red", .string "green"]),
      ("com.acme#note", .bool true)])]

/-- A structure whose one member is listed as required. -/
def car : Json :=
  .object [("type", .string "structure"),
    ("members", .object [("color", .object [("target", .string "ns#Color")])]),
    ("required", .array [.string "color"])]

/-- The trait under its other name, the literals in a mapping, and the foreign trait left out. -/
def color' : Json :=
  .object [("type", .string "string"),
    ("traits", .object [("smithy.api#enum",
      .object [("r", .object [("value", .string "red")]), ("g", .string "green")])])]

/-- The member required by a trait of its own. -/
def car' : Json :=
  .object [("type", .string "structure"),
    ("members", .object [("color", .object [("target", .string "ns#Color"),
      ("traits", .object [("smithy.api#required", .object [])])])])]

open Spelling

/-- The two enumerations are spellings of one. -/
theorem color_respelled : Spelling.Shape color color' where
  record := rfl
  kind := rfl
  members := .objects .nil
  member := .same _
  key := .same _
  value := .same _
  required := .same _
  traits := by
    have bare : Trait.localName? "enum" = some "enum" := by decide +kernel
    refine .objects (.cons (by decide +kernel) (fun name denotes => ?_)
      (.drop (by decide +kernel) (.refl [])))
    obtain rfl : "enum" = name := Option.some.inj (bare.symm.trans denotes)
    exact .enum rfl rfl (.cons (.literal .text (.object rfl)) (.cons (.same _) .nil))
  input := rfl
  output := rfl
  operations := rfl
  identifiers := rfl

/-- The two structures are spellings of one. -/
theorem car_respelled : Spelling.Shape car car' where
  record := rfl
  kind := rfl
  members := by
    -- The member is listed in one spelling and has the trait in the other.
    have traits : Traits (.object []) (.object [("smithy.api#required", .object [])]) :=
      .objects (.add (by decide +kernel) (.refl []))
    have listed : Lists (.array [.string "color"]) "color" := ⟨_, rfl, by simp⟩
    refine .objects (.cons ⟨rfl, ⟨rfl, rfl, traits⟩, iff_of_true (.inl listed) (.inr ?_)⟩ .nil)
    refine ⟨_, rfl, ?_⟩
    rw [Trait.payloads_cons, if_pos (by decide +kernel)]
    simp
  member := .same _
  key := .same _
  value := .same _
  required := by
    refine .arrays fun item others => ?_
    have declared : "color" ∈ ["color"] := List.mem_cons_self
    have other : item ≠ .string "color" := others "color" declared
    simp [other]
  traits := .same _
  input := rfl
  output := rfl
  operations := rfl
  identifiers := rfl

/-- The two documents are spellings of one model. -/
theorem respelled : Spelling.Model (document color car) (document color' car') where
  regular := by
    have held : Json.Tree.Holds none (.ofJson (document color car)) (document color car) :=
      ⟨by decide +kernel, rfl⟩
    exact held.regular_value
  regular' := by
    have held : Json.Tree.Holds none (.ofJson (document color' car')) (document color' car') :=
      ⟨by decide +kernel, rfl⟩
    exact held.regular_value
  record := rfl
  version := rfl
  shapes := .objects (.cons ⟨rfl, color_respelled⟩ (.cons ⟨rfl, car_respelled⟩ .nil))

/-- Both compile, and to the same nodes, index, diagnostics and documentation. -/
theorem compiled_alike :
    Relation.ReflTransGen Spelling.Model (document color car) (document color' car') ∧
      ∃ m m', CompiledModel.ofJson (document color car) = .ok m ∧
        CompiledModel.ofJson (document color' car') = .ok m' ∧ m.nodes = m'.nodes ∧
        m.index = m'.index ∧ m.diagnostics = m'.diagnostics ∧
        ∀ id, m.documentation? id = m'.documentation? id := by
  have chain := Relation.ReflTransGen.single respelled
  have spelled := CompiledModel.ofJson_of_spellings chain
  have isOk : (CompiledModel.ofJson (document color car)).isOk = true := by decide +kernel
  obtain ⟨m, compiled⟩ := isOk_iff_exists.1 isOk
  obtain ⟨m', compiled'⟩ := spelled.1.1 ⟨m, compiled⟩
  exact ⟨chain, m, m', compiled, compiled', spelled.2 m m' compiled compiled'⟩

end Paint

end ShapeSchema
