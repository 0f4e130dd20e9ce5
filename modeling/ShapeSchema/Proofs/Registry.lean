import ShapeSchema.Model.Registry
import ShapeSchema.Proofs.Lists
import ShapeSchema.Proofs.OrderedMap

/-!
# `ShapeSchema.Proofs.Registry`: what look-ups do to a registry

A look-up can change a registry in one way: it appends a prelude shape (`Registry.Grows`). A
registry that has grown so answers every look-up as before, because what it appended is what the
look-up would have made (`Registry.shape?_of_grows`). `Registry.shape?` is that stable answer, read
off without changing anything, and `resolve_ok` and `resolve_eq_error_iff` tie it to `resolve`.

The registry of a document holds declared shapes only (`isLoaded_ofDocument`).
-/

set_option autoImplicit false

namespace ShapeSchema

namespace Registry

/-- The shape that an id resolves to: the one in the table, or else the prelude's. -/
def shape? (r : Registry) (id : String) : Option Shape :=
  (r.get? id).or ((builtinKind? id).map (Shape.ofPrelude id))

/-- An entry as a look-up appends it: a prelude id with its built-in shape. -/
def IsPrelude (e : String × Shape) : Prop :=
  ∃ kind, builtinKind? e.1 = some kind ∧ e.2 = Shape.ofPrelude e.1 kind

/-- The second registry is the first with prelude shapes appended. -/
structure Grows (r r' : Registry) : Prop where
  declared : r'.declared = r.declared
  shapes : ∃ added, r'.shapes.entries = r.shapes.entries ++ added ∧ ∀ e ∈ added, IsPrelude e

/-- A registry grows into itself by nothing. -/
theorem Grows.refl (r : Registry) : r.Grows r := ⟨rfl, [], by simp⟩

/-- Growth after growth is growth. -/
theorem Grows.trans {r r' r'' : Registry} (first : r.Grows r') (second : r'.Grows r'') :
    r.Grows r'' := by
  obtain ⟨added, hadded, prelude⟩ := first.shapes
  obtain ⟨added', hadded', prelude'⟩ := second.shapes
  refine ⟨second.declared.trans first.declared, added ++ added', ?_, ?_⟩
  · rw [hadded', hadded, List.append_assoc]
  · intro e he
    rcases List.mem_append.1 he with h | h
    · exact prelude e h
    · exact prelude' e h

/-- A registry that has grown still holds what it held. -/
theorem Grows.get? {r r' : Registry} (h : r.Grows r') {id : String} {s : Shape}
    (found : r.get? id = some s) : r'.get? id = some s := by
  obtain ⟨added, hadded, -⟩ := h.shapes
  exact OrderedMap.get?_of_append hadded found

/-- Growth does not change what any id resolves to. -/
theorem shape?_of_grows {r r' : Registry} (h : r.Grows r') (id : String) :
    r'.shape? id = r.shape? id := by
  obtain ⟨added, hadded, prelude⟩ := h.shapes
  cases known : r.get? id with
  | some s => rw [shape?, shape?, known, h.get? known, Option.some_or]
  | none =>
    rw [shape?, shape?, known, Option.none_or]
    cases found : r'.get? id with
    | none => rw [Option.none_or]
    | some s =>
      -- The shape was appended, so it is the one that the prelude has for the id.
      have mem : (id, s) ∈ r'.shapes.entries := OrderedMap.get?_eq_some_iff.1 found
      rw [hadded] at mem
      rcases List.mem_append.1 mem with old | new
      · rw [Registry.get?, OrderedMap.get?_eq_some_iff.2 old] at known
        cases known
      · obtain ⟨kind, hkind, hs⟩ := prelude _ new
        simp only at hkind hs
        rw [hkind, hs, Option.some_or, Option.map_some]

/-- A look-up fails exactly where there is no shape, and names the id. -/
theorem resolve_eq_error_iff {r : Registry} {id : String} {e : ModelError} :
    r.resolve id = .error e ↔ r.shape? id = none ∧ e = .shapeNotFound id := by
  unfold resolve shape?
  cases r.get? id with
  | some s => simp
  | none =>
    cases builtinKind? id with
    | none => simp [eq_comm]
    | some kind => simp

/-- A look-up that succeeds answers with the shape of the id, and the registry it leaves has grown
and holds that shape. -/
theorem resolve_ok {r r' : Registry} {id : String} {s : Shape} (h : r.resolve id = .ok (s, r')) :
    r.shape? id = some s ∧ r'.get? id = some s ∧ r.Grows r' := by
  unfold resolve at h
  cases known : r.get? id with
  | some shape =>
    rw [known] at h
    cases h
    exact ⟨by rw [shape?, known, Option.some_or], known, .refl r⟩
  | none =>
    rw [known] at h
    -- An id that is not registered is looked up in the prelude, and then appended.
    cases hkind : builtinKind? id with
    | none =>
      rw [hkind] at h
      cases h
    | some kind =>
      rw [hkind] at h
      cases h
      refine ⟨by rw [shape?, known, hkind]; rfl, OrderedMap.get?_insert_self _ known, rfl,
        [(id, Shape.ofPrelude id kind)], OrderedMap.entries_insert _ known, ?_⟩
      intro e he
      rw [List.mem_singleton.1 he]
      exact ⟨kind, hkind, rfl⟩

/-- Every id that has a shape is found. -/
theorem exists_resolve {r : Registry} {id : String} {s : Shape} (h : r.shape? id = some s) :
    ∃ r', r.resolve id = .ok (s, r') := by
  cases hr : r.resolve id with
  | error e =>
    rw [(resolve_eq_error_iff.1 hr).1] at h
    cases h
  | ok found =>
    obtain ⟨s', r'⟩ := found
    rw [(resolve_ok hr).1] at h
    cases h
    exact ⟨r', rfl⟩

/-- Two registries answer every look-up alike, and compilations nest equally deep in both. -/
structure Agrees (r r' : Registry) : Prop where
  declared : r.declared = r'.declared
  shape? : ∀ id, r.shape? id = r'.shape? id

/-- Agreement goes both ways. -/
theorem Agrees.symm {r r' : Registry} (h : r.Agrees r') : r'.Agrees r :=
  ⟨h.declared.symm, fun id => (h.shape? id).symm⟩

/-- Registries that agree with one in the middle agree with each other. -/
theorem Agrees.trans {r r' r'' : Registry} (first : r.Agrees r') (second : r'.Agrees r'') :
    r.Agrees r'' :=
  ⟨first.declared.trans second.declared, fun id => (first.shape? id).trans (second.shape? id)⟩

/-- A registry that has grown answers as before: only what every registry supplies was added. -/
theorem Grows.agrees {r r' : Registry} (h : r.Grows r') : r.Agrees r' :=
  ⟨h.declared.symm, fun id => (shape?_of_grows h id).symm⟩

/-- Registries that agree still agree when both have grown. -/
theorem Agrees.grows {r r' s s' : Registry} (h : r.Agrees s) (hr : r.Grows r') (hs : s.Grows s') :
    r'.Agrees s' :=
  hr.agrees.symm.trans (h.trans hs.agrees)

/-! ### Registries of documents -/

/-- All shapes of the registry are declared, as when a document was just loaded. -/
def IsLoaded (r : Registry) : Prop := r.declared = r.shapes.size

/-- A document that makes a registry has declarations. -/
theorem exists_of_ofDocument {document : Document} {r : Registry}
    (h : ofDocument document = .ok r) :
    ∃ declarations, document.shapes = some declarations := by
  cases shapes : document.shapes with
  | none =>
    rw [ofDocument, shapes] at h
    cases h
  | some declarations => exact ⟨declarations, rfl⟩

/-- The registry of a document is loaded: its shapes are the declared ones. -/
theorem isLoaded_ofDocument {document : Document} {r : Registry}
    (h : ofDocument document = .ok r) : r.IsLoaded := by
  obtain ⟨declarations, shapes⟩ := exists_of_ofDocument h
  rw [ofDocument, shapes] at h
  obtain ⟨resolved, -, h⟩ := except_bind_ok h
  cases h
  rfl

/-- The declarations are resolved one by one. -/
theorem entries_ofDocument {document : Document} {r : Registry} (made : ofDocument document = .ok r)
    {declarations : OrderedMap Declaration} (shapes : document.shapes = some declarations) :
    List.Forall₂ (fun e x => e.1 = x.1 ∧ Shape.resolve e.1 e.2 = .ok x.2)
      declarations.entries r.shapes.entries := by
  unfold ofDocument at made
  rw [shapes] at made
  obtain ⟨resolved, each, made⟩ := except_bind_ok made
  cases made
  have pairs := forall₂_of_mapM_values each
  have keys : declarations.entries.map Prod.fst = resolved.map Prod.fst :=
    map_eq_of_forall₂ (fun _ _ same => same.1) pairs
  rw [OrderedMap.entries_ofList (keys ▸ declarations.distinct)]
  exact pairs

/-- What `load` answers is a loaded registry. -/
theorem isLoaded_of_load {document : Json} {r : Registry} (h : load document = .ok r) :
    r.IsLoaded := by
  obtain ⟨_, -, h⟩ := except_bind_ok h
  exact isLoaded_ofDocument h

end Registry

end ShapeSchema
