import ShapeSchema.Proofs.Compiler.Depth
import ShapeSchema.Proofs.Schema.Constraint
import ShapeSchema.Proofs.Schema.Locality

/-!
# `ShapeSchema.Proofs.Schema.Success`: which calls succeed

Whether a call succeeds is settled by the shapes that its id reaches, one by one: each has to be
declared or in the prelude, of a kind that has a schema, and valid (`Registry.Admits`). What the
compiler has indexed before makes no difference, and neither does the order of the visits or a cycle
on the way (`compile_ok_iff_admits`).

The two directions use different sides of a compilation. A success leaves an index that is closed
under targets, so every shape on the way has a node. A failure is carried up unchanged from the
visit where it began, and that visit was for a reached id (`compileWithin_blames`).
-/

set_option autoImplicit false

namespace ShapeSchema

/-- A shape of the prelude has a kind with a schema, needs no target and has no bounds. -/
theorem Shape.valid_ofPrelude {id : String} {kind : Kind} (builtin : builtinKind? id = some kind) :
    (Shape.ofPrelude id kind).kind.isSupported = true ∧ (Shape.ofPrelude id kind).Valid := by
  obtain ⟨rest, -, known⟩ := Option.bind_eq_some_iff.1 builtin
  have mem : kind ∈ preludeKinds.map Prod.snd := List.mem_map_of_mem (Entries.mem_of_lookup known)
  unfold preludeKinds at mem
  simp only [List.map_cons, List.map_nil, List.mem_cons, List.not_mem_nil, or_false] at mem
  rcases mem with rfl | rfl | rfl | rfl | rfl | rfl | rfl | rfl | rfl | rfl | rfl | rfl | rfl | rfl
  all_goals simp [Shape.ofPrelude, Kind.isSupported, Shape.Valid, Trait.length?, Trait.range?]

namespace Registry

/-- The id does not stand in the way of a schema: it has a shape, and that shape a node as soon as
its targets have theirs. -/
structure Admits (r : Registry) (id : String) : Prop where
  named : id ∈ r.declaredIds ∨ (builtinKind? id).isSome = true
  sound : ∀ s, r.Resolves id s → s.kind.isSupported = true ∧ s.Valid

/-- The error is about an id that is reached, and what it says of that id is the case. -/
def Blames (r : Registry) (id : String) : ModelError → Prop
  | .shapeNotFound x => r.Reaches id x ∧ x ∉ r.declaredIds ∧ builtinKind? x = none
  | .unsupportedShape x kind =>
    r.Reaches id x ∧ x ∈ r.declaredIds ∧ ∃ s, r.Resolves x s ∧ s.kind = .unsupported kind
  | .malformed _ => ∃ x s, r.Reaches id x ∧ x ∈ r.declaredIds ∧ r.Resolves x s ∧ ¬ s.Valid

variable {r : Registry} {id x : String} {s : Shape}

/-- The declared ids of a registry that was just loaded are all that it has. -/
theorem declaredIds_eq (loaded : r.IsLoaded) : r.declaredIds = r.shapes.keys := by
  rw [declaredIds, loaded, OrderedMap.size, ← List.length_map Prod.fst]
  exact List.take_length

/-- A declared id has a shape, which is the one that the table has. -/
theorem get?_eq_none_iff (loaded : r.IsLoaded) : r.get? id = none ↔ id ∉ r.declaredIds := by
  rw [declaredIds_eq loaded]
  exact Entries.lookup_eq_none_iff

/-- What a loaded registry holds is declared. -/
theorem mem_declaredIds_of_get? (loaded : r.IsLoaded) (held : r.get? id = some s) :
    id ∈ r.declaredIds := by
  by_contra undeclared
  rw [(get?_eq_none_iff loaded).2 undeclared] at held
  cases held

/-- A shape is to be had for the ids that are declared and for those of the prelude. -/
theorem shape?_eq_none_iff (loaded : r.IsLoaded) :
    r.shape? id = none ↔ id ∉ r.declaredIds ∧ builtinKind? id = none := by
  rw [shape?, Option.or_eq_none_iff, Option.map_eq_none_iff, get?_eq_none_iff loaded]

/-- A shape that stands in the way is declared. -/
theorem mem_declaredIds_of_not_valid (loaded : r.IsLoaded) (resolved : r.Resolves id s)
    (refused : ¬ (s.kind.isSupported = true ∧ s.Valid)) : id ∈ r.declaredIds := by
  by_contra undeclared
  have held := resolves_iff.1 resolved
  rw [shape?, (get?_eq_none_iff loaded).2 undeclared, Option.none_or,
    Option.map_eq_some_iff] at held
  obtain ⟨kind, builtin, rfl⟩ := held
  exact refused (Shape.valid_ofPrelude builtin)

/-- An id is admitted exactly if there is a shape for it, of a kind with a schema and valid. -/
theorem admits_iff (loaded : r.IsLoaded) :
    r.Admits id ↔ ∃ s, r.Resolves id s ∧ s.kind.isSupported = true ∧ s.Valid := by
  constructor
  · rintro ⟨named, sound⟩
    cases held : r.shape? id with
    | none =>
      obtain ⟨undeclared, unknown⟩ := (shape?_eq_none_iff loaded).1 held
      simp [undeclared, unknown] at named
    | some s => exact ⟨s, resolves_iff.2 held, sound s (resolves_iff.2 held)⟩
  · rintro ⟨s, resolved, sound⟩
    constructor
    · -- An id that is neither declared nor built in resolves to nothing.
      by_contra unnamed
      rw [not_or, Bool.not_eq_true, Option.isSome_eq_false_iff,
        Option.isNone_iff_eq_none] at unnamed
      have missing := (shape?_eq_none_iff loaded).2 unnamed
      rw [resolves_iff.1 resolved] at missing
      cases missing
    · intro s' resolved'
      rw [resolves_iff, resolves_iff.1 resolved] at resolved'
      cases resolved'
      exact sound

/-- What is blamed on a target is blamed on the shape too. -/
theorem Blames.trans {e : ModelError} (chain : r.Reaches id x) (blame : r.Blames x e) :
    r.Blames id e := by
  cases e with
  | shapeNotFound y => exact ⟨chain.trans blame.1, blame.2⟩
  | unsupportedShape y kind => exact ⟨chain.trans blame.1, blame.2⟩
  | malformed defect =>
    obtain ⟨y, s, further, rest⟩ := blame
    exact ⟨y, s, chain.trans further, rest⟩

/-- Where there is something to blame, some id that is reached is not admitted. -/
theorem Blames.exists_not_admits {e : ModelError} (blame : r.Blames id e) :
    ∃ x, r.Reaches id x ∧ ¬ r.Admits x := by
  -- Each error names a culprit that is reached, and says what is wrong with it.
  cases e with
  | shapeNotFound x =>
    obtain ⟨chain, undeclared, unknown⟩ := blame
    refine ⟨x, chain, fun admitted => ?_⟩
    rcases admitted.named with declared | builtin
    · exact undeclared declared
    · rw [unknown] at builtin
      cases builtin
  | unsupportedShape x kind =>
    obtain ⟨chain, -, s, resolved, unsupported⟩ := blame
    refine ⟨x, chain, fun admitted => ?_⟩
    exact Compiler.kind_ne_unsupported (admitted.sound s resolved).1 kind unsupported
  | malformed defect =>
    obtain ⟨x, s, chain, -, resolved, invalid⟩ := blame
    exact ⟨x, chain, fun admitted => invalid (admitted.sound s resolved).2⟩

end Registry

namespace Compiler

/-! ### Where a failure comes from -/

/-- The error of a compilation blames an id that is reached, whatever was indexed before: by
induction on the depth, since an error that did not begin here came from a target. -/
theorem compileWithin_blames {r : Registry} (loaded : r.IsLoaded) (depth : Nat) :
    ∀ {c : Compiler} {id : String} {e : ModelError}, r.Grows c.registry →
      (compileWithin depth c id).1 = .error (.error e) → r.Blames id e := by
  induction depth using Nat.strongRecOn with
  | ind depth ih =>
    intro c id e grown stopped
    have outcome := compileWithin_outcome depth c id
    -- What the compiler looks up is what the loaded registry has.
    have resolves {shape : Shape} {registry : Registry}
        (resolved : c.registry.resolve id = .ok (shape, registry)) : r.Resolves id shape := by
      rw [Registry.resolves_iff, ← Registry.shape?_of_grows grown]
      exact (Registry.resolve_ok resolved).1
    generalize compileWithin depth c id = result at outcome stopped
    cases outcome with
    | hit | tooDeep | built => cases stopped
    | missing _ notFound =>
      cases stopped
      obtain ⟨missing, rfl⟩ := Registry.resolve_eq_error_iff.1 notFound
      rw [Registry.shape?_of_grows grown] at missing
      exact ⟨.refl, (Registry.shape?_eq_none_iff loaded).1 missing⟩
    | unsupported _ resolved unknown =>
      cases stopped
      refine ⟨.refl, ?_, _, resolves resolved, unknown⟩
      refine Registry.mem_declaredIds_of_not_valid loaded (resolves resolved) fun valid => ?_
      exact kind_ne_unsupported valid.1 _ unknown
    | @failed _ _ _ _ shape _ _ _ resolved _ lowered =>
      cases stopped
      rcases lower_error lowered with slots | ⟨refs, defect, filled, unmade, same⟩
      · -- A target was visited in vain, and the error is about something that it reaches.
        obtain ⟨between, target, later, slot, stopped⟩ :=
          exists_stopped_of_fillSlots (compileWithin_grows _) slots
        have grown' := (grown.trans (Registry.resolve_ok resolved).2.2).trans later.registry
        have blame := ih _ (Nat.lt_succ_self _) grown' stopped
        exact blame.trans (.step .refl (resolves resolved) slot)
      · cases same
        have invalid : ¬ shape.Valid := by
          intro valid
          obtain ⟨built, made⟩ := (shape.node_isOk_iff (length_of_fillSlots filled)).2 valid
          rw [unmade] at made
          cases made
        refine ⟨id, shape, .refl, ?_, resolves resolved, invalid⟩
        exact Registry.mem_declaredIds_of_not_valid loaded (resolves resolved)
          fun valid => invalid valid.2

/-- The error of a call blames an id that is reached. -/
theorem session_blames {r : Registry} (loaded : r.IsLoaded) (ids : List String) {id : String}
    {e : ModelError} (failed : ((session r ids).compile id).1 = .error e) : r.Blames id e := by
  obtain ⟨stop, run, same⟩ := compileWithin_of_compile_error failed
  have stopped := congrArg Prod.fst run
  cases stop with
  | tooDeep => exact absurd stopped (session_ne_tooDeep loaded ids id)
  | error e' =>
    cases same
    exact compileWithin_blames loaded _ (session_registry r ids) stopped

/-! ### What a success implies -/

/-- An indexed id has a shape of a kind with a schema, valid, and with its targets indexed. -/
theorem Sound.of_indexed {c : Compiler} (h : c.Sound []) {id : String} {ref : Ref}
    (indexed : c.index.get? id = some ref) :
    ∃ s, c.registry.get? id = some s ∧ s.kind.isSupported = true ∧ s.Valid ∧
      ∀ target, .shape target ∈ s.slots → ∃ ref, c.index.get? target = some ref := by
  obtain ⟨s, node, held, supported, -, refs, diagnostics, filled, made⟩ :=
    h.finished (id, ref) (OrderedMap.get?_eq_some_iff.1 indexed) List.not_mem_nil
  refine ⟨s, held, supported, (s.node_isOk_iff filled.length_eq.symm).1 ⟨_, made⟩, ?_⟩
  intro target slot
  obtain ⟨ref, -, filled⟩ := exists_of_forall₂ filled slot
  exact ⟨ref, filled⟩

/-- Every id that an indexed id reaches is indexed too. -/
theorem indexed_of_reaches {r : Registry} {ids : List String} {id x : String}
    (chain : r.Reaches id x) {ref : Ref} (indexed : (session r ids).index.get? id = some ref) :
    ∃ ref, (session r ids).index.get? x = some ref := by
  induction chain with
  | refl => exact ⟨ref, indexed⟩
  | @step x y s _ resolved target ih =>
    obtain ⟨refx, indexed⟩ := ih
    obtain ⟨s', held, -, -, targets⟩ := (session_sound r ids).of_indexed indexed
    have same := shape?_of_session held
    rw [Registry.resolves_iff.1 resolved] at same
    cases same
    exact targets y target

/-- A call succeeds exactly if every id that is reached is admitted. -/
theorem compile_ok_iff_admits {r : Registry} (loaded : r.IsLoaded) (ids : List String)
    (id : String) :
    (∃ ref, ((session r ids).compile id).1 = .ok ref) ↔ ∀ x, r.Reaches id x → r.Admits x := by
  constructor
  · rintro ⟨ref, answer⟩ x chain
    -- What is indexed has a valid shape, and so has everything that it reaches.
    have indexed := indexed_of_compile (session_sound r ids) answer
    rw [← session_append] at indexed
    obtain ⟨refx, indexed⟩ := indexed_of_reaches chain indexed
    obtain ⟨s, held, supported, valid, -⟩ := (session_sound r _).of_indexed indexed
    exact (Registry.admits_iff loaded).2
      ⟨s, Registry.resolves_iff.2 (shape?_of_session held), supported, valid⟩
  · intro admitted
    cases answer : ((session r ids).compile id).1 with
    | ok ref => exact ⟨ref, rfl⟩
    | error e =>
      obtain ⟨x, chain, refused⟩ := (session_blames loaded ids answer).exists_not_admits
      exact absurd (admitted x chain) refused

/-! ### Whole models -/

/-- Calls one after the other, up to the first error, all succeed exactly if each of them does, and
otherwise the error is that of one of them. -/
theorem compileAll_cases {r : Registry} (loaded : r.IsLoaded) (ids : List String) :
    ∀ done : List String,
      match (session r done).compileAll ids with
      | .ok _ => ∀ id ∈ ids, ∀ x, r.Reaches id x → r.Admits x
      | .error e => ∃ id ∈ ids, r.Blames id e := by
  induction ids with
  | nil => exact fun done id mem => absurd mem List.not_mem_nil
  | cons id ids ih =>
    intro done
    rw [compileAll]
    cases hrun : (session r done).compile id with
    | mk answer c =>
      cases answer with
      | error e =>
        exact ⟨id, List.mem_cons_self, session_blames loaded done (congrArg Prod.fst hrun)⟩
      | ok ref =>
        have first := (compile_ok_iff_admits loaded done id).1 ⟨ref, congrArg Prod.fst hrun⟩
        -- The other calls go on from the session that this one has left.
        have rest := ih (done ++ [id])
        rw [session_append, hrun] at rest
        dsimp only at rest ⊢
        cases htail : c.compileAll ids with
        | ok c' =>
          rw [htail] at rest
          intro id' mem
          rcases List.mem_cons.1 mem with rfl | mem
          · exact first
          · exact rest id' mem
        | error e =>
          rw [htail] at rest
          obtain ⟨id', mem, blame⟩ := rest
          exact ⟨id', List.mem_cons_of_mem _ mem, blame⟩

/-- The model of a registry: it is there exactly if all that the declared ids reach is admitted, and
the error that is there in its place is about one of the ids that they reach. -/
theorem ofRegistry_cases {r : Registry} (loaded : r.IsLoaded) :
    match CompiledModel.ofRegistry r with
    | .ok _ => ∀ id ∈ r.declaredIds, ∀ x, r.Reaches id x → r.Admits x
    | .error e => ∃ id ∈ r.declaredIds, r.Blames id e := by
  have calls := compileAll_cases loaded r.declaredIds []
  change match (start r).compileAll r.declaredIds with
    | .ok _ => _
    | .error e => _ at calls
  rw [CompiledModel.ofRegistry]
  cases hall : (start r).compileAll r.declaredIds with
  | ok c =>
    rw [hall] at calls
    exact calls
  | error e =>
    rw [hall] at calls
    exact calls

/-- A call succeeds exactly if every id that it reaches is admitted, and the error of one that fails
is about a reached id of which it is true.

Take any session on a loaded registry, failed calls included, and call it with any id. If there is a
reference, then each id that is reached is declared or in the prelude, of a kind with a schema and
with a valid shape, and if each of them is, then there is a reference. Otherwise the error names an
id without a shape, or a declared one of a kind without a schema, or some declared shape that is
reached is not valid. A document has a model, in the same way, exactly if all ids that the declared
ones reach are admitted. -/
theorem compile_succeeds_or_blames :
    (∀ r : Registry, r.IsLoaded → ∀ (ids : List String) (id : String),
      ((∃ ref, ((session r ids).compile id).1 = .ok ref) ↔ ∀ x, r.Reaches id x → r.Admits x) ∧
        ∀ e, ((session r ids).compile id).1 = .error e → r.Blames id e) ∧
      ∀ document : Json, match Registry.load document with
        | .error e => CompiledModel.ofJson document = .error e
        | .ok r =>
          ((∃ m, CompiledModel.ofJson document = .ok m) ↔
            ∀ id ∈ r.declaredIds, ∀ x, r.Reaches id x → r.Admits x) ∧
            ∀ e, CompiledModel.ofJson document = .error e →
              ∃ id ∈ r.declaredIds, r.Blames id e := by
  constructor
  · intro r loaded ids id
    exact ⟨compile_ok_iff_admits loaded ids id, fun e failed => session_blames loaded ids failed⟩
  · intro document
    rw [CompiledModel.ofJson]
    cases hload : Registry.load document with
    | error e => rfl
    | ok r =>
      have model := ofRegistry_cases (Registry.isLoaded_of_load hload)
      change ((∃ m, CompiledModel.ofRegistry r = .ok m) ↔ _) ∧
        ∀ e, CompiledModel.ofRegistry r = .error e → _
      cases hmodel : CompiledModel.ofRegistry r with
      | ok m =>
        rw [hmodel] at model
        exact ⟨⟨fun _ => model, fun _ => ⟨m, rfl⟩⟩, fun e failed => by cases failed⟩
      | error e =>
        rw [hmodel] at model
        refine ⟨⟨fun ⟨m, h⟩ => (by cases h), fun admitted => ?_⟩, fun e' failed => ?_⟩
        · -- The id that is blamed is reached from a declared one.
          obtain ⟨id, declared, blame⟩ := model
          obtain ⟨x, chain, refused⟩ := blame.exists_not_admits
          exact absurd (admitted id declared x chain) refused
        · cases failed
          exact model

/-! ### A label that hides its length -/

/-- A document with a label that has an enum trait beside a length trait with its bounds the wrong
way round, which nothing looks at, and with a list of labels whose length trait is as wrong. -/
def labelDocument : Json :=
  let inverted : Json := .object [("min", .ofInt 5), ("max", .ofInt 1)]
  .object [("shapes", .object
    [("ns#Label", .object [("type", .string "string"), ("traits", .object
        [("enum", .array [.string "new"]), ("length", inverted)])]),
     ("ns#Page", .object [("type", .string "structure"), ("members", .object
        [("label", .object [("target", .string "ns#Label")]),
         ("next", .object [("target", .string "ns#Page")])])]),
     ("ns#Labels", .object [("type", .string "list"),
        ("member", .object [("target", .string "ns#Label")]),
        ("traits", .object [("length", inverted)])])])]

/-- After a call for the labels has failed, a page is compiled: it leads to the label and back to
itself, and all of that is admitted. The document has no model, because of the list. -/
theorem labels_blamed : ∃ r, Registry.load labelDocument = .ok r ∧
    (∀ x, r.Reaches "ns#Page" x → r.Admits x) ∧
    (∃ e, ((session r []).compile "ns#Labels").1 = .error e ∧ r.Blames "ns#Labels" e) ∧
    ∃ e, CompiledModel.ofJson labelDocument = .error e ∧ ∃ id ∈ r.declaredIds, r.Blames id e := by
  have answers : (Registry.load labelDocument).toOption.map (fun r =>
      (((session r ["ns#Labels"]).compile "ns#Page").1.isOk,
        ((session r []).compile "ns#Labels").1.isOk)) = some (true, false) := by
    decide +kernel
  have modelless : (CompiledModel.ofJson labelDocument).isOk = false := by decide +kernel
  obtain ⟨calls, models⟩ := compile_succeeds_or_blames
  have model := models labelDocument
  cases load : Registry.load labelDocument with
  | error e =>
    rw [load] at answers
    cases answers
  | ok r =>
    rw [load] at answers model
    have loaded : r.IsLoaded := Registry.isLoaded_of_load load
    -- The page compiles after the labels failed, and the labels fail in a session of their own.
    have both := Prod.mk.inj (Option.some.inj answers)
    refine ⟨r, rfl, ?_, ?_, ?_⟩
    · cases page : ((session r ["ns#Labels"]).compile "ns#Page").1 with
      | ok ref => exact (calls r loaded ["ns#Labels"] "ns#Page").1.1 ⟨ref, page⟩
      | error e =>
        rw [page] at both
        cases both.1
    · cases labels : ((session r []).compile "ns#Labels").1 with
      | ok ref =>
        rw [labels] at both
        cases both.2
      | error e => exact ⟨e, rfl, (calls r loaded [] "ns#Labels").2 e labels⟩
    · cases hmodel : CompiledModel.ofJson labelDocument with
      | ok m =>
        rw [hmodel] at modelless
        cases modelless
      | error e => exact ⟨e, rfl, model.2 e hmodel⟩

end Compiler

end ShapeSchema
