import Mathlib.Data.List.Induction
import ShapeSchema.Proofs.Compiler.Arena
import ShapeSchema.Schema.Model

/-!
# `ShapeSchema.Proofs.Compiler.Session`: calls from outside

A session starts a compiler on a registry and calls `compile` with any ids, going on after a
failure. Between the calls nothing is pending, so the invariant of the arena holds for every
indexed id (`session_sound`).
-/

set_option autoImplicit false

namespace ShapeSchema.Compiler

/-- The error that a caller gets to see. -/
def Stop.toError (id : String) : Stop → ModelError
  | .error e => e
  | .tooDeep => .shapeNotFound id

/-- A call is a compilation with the depth of the registry. -/
theorem compile_eq (c : Compiler) (id : String) :
    c.compile id = ((c.compileWithin c.registry.nesting id).1.mapError (Stop.toError id),
      (c.compileWithin c.registry.nesting id).2) := by
  rw [compile]
  generalize c.compileWithin c.registry.nesting id = result
  obtain ⟨answer, c'⟩ := result
  cases answer with
  | ok ref => rfl
  | error stop => cases stop <;> rfl

/-- A call only grows the compiler, whatever it answers. -/
theorem compile_grows (c : Compiler) (id : String) : c.Grows (c.compile id).2 := by
  rw [compile_eq]
  exact compileWithin_grows _ c id

/-- A call that answers with a reference is a compilation that does. -/
theorem compileWithin_of_compile_ok {c : Compiler} {id : String} {ref : Ref}
    (answer : (c.compile id).1 = .ok ref) :
    c.compileWithin c.registry.nesting id = (.ok ref, (c.compile id).2) := by
  rw [compile_eq] at answer ⊢
  generalize c.compileWithin c.registry.nesting id = result at answer ⊢
  obtain ⟨answer', c'⟩ := result
  cases answer' with
  | error stop => cases answer
  | ok ref' =>
    cases answer
    rfl

/-- A call that fails is a compilation that stops. -/
theorem compileWithin_of_compile_error {c : Compiler} {id : String} {e : ModelError}
    (failed : (c.compile id).1 = .error e) :
    ∃ stop, c.compileWithin c.registry.nesting id = (.error stop, (c.compile id).2) ∧
      stop.toError id = e := by
  rw [compile_eq] at failed ⊢
  generalize c.compileWithin c.registry.nesting id = result at failed ⊢
  obtain ⟨answer, c'⟩ := result
  cases answer with
  | ok ref => cases failed
  | error stop =>
    cases failed
    exact ⟨stop, rfl, rfl⟩

/-- A call that fails leaves the compiler as it was, but for the registry. -/
theorem compile_error {c : Compiler} {id : String} {e : ModelError}
    (h : (c.compile id).1 = .error e) :
    (c.compile id).2 = { c with registry := (c.compile id).2.registry } := by
  obtain ⟨stop, run, -⟩ := compileWithin_of_compile_error h
  exact compileWithin_error run

/-- A call keeps the invariant, and the id that it was for is indexed if it succeeds. -/
theorem compile_sound {c : Compiler} (h : c.Sound []) (id : String) :
    (c.compile id).2.Sound [] := by
  cases hanswer : (c.compile id).1 with
  | error e =>
    rw [compile_error hanswer]
    exact h.of_registry (compile_grows c id).registry
  | ok ref => exact (compileWithin_sound _ h (compileWithin_of_compile_ok hanswer)).1

/-- A call for an indexed id answers with the reference that it has, and changes nothing. -/
theorem compile_of_indexed {c : Compiler} {id : String} {ref : Ref}
    (indexed : c.index.get? id = some ref) : c.compile id = (.ok ref, c) := by
  rw [compile_eq, compileWithin_of_indexed indexed]
  rfl

/-- A call that answers with a reference leaves the id indexed under it. -/
theorem indexed_of_compile {c : Compiler} (h : c.Sound []) {id : String} {ref : Ref}
    (answer : (c.compile id).1 = .ok ref) : (c.compile id).2.index.get? id = some ref :=
  (compileWithin_sound _ h (compileWithin_of_compile_ok answer)).2

/-- Calls only grow a compiler. -/
theorem foldl_compile_grows (ids : List String) (c : Compiler) :
    c.Grows (ids.foldl (fun c id => (c.compile id).2) c) := by
  induction ids generalizing c with
  | nil => exact .refl c
  | cons id ids ih => exact (compile_grows c id).trans (ih _)

/-! ### Sessions -/

/-- The compiler of a registry after calls for these ids, one after the other. -/
def session (r : Registry) (ids : List String) : Compiler :=
  ids.foldl (fun c id => (c.compile id).2) (start r)

/-- The last call of a session goes on from where the others have led. -/
theorem session_append (r : Registry) (ids : List String) (id : String) :
    session r (ids ++ [id]) = ((session r ids).compile id).2 := by
  rw [session, List.foldl_append]
  rfl

/-- A session that goes on only grows its compiler. -/
theorem session_grows (r : Registry) (ids further : List String) :
    (session r ids).Grows (session r (ids ++ further)) := by
  rw [session, session, List.foldl_append]
  exact foldl_compile_grows further _

/-- Whatever the calls keep, a session keeps: the induction over sessions. -/
theorem session_induction {P : Compiler → Prop} {r : Registry} (before : P (start r))
    (call : ∀ c id, P c → P (c.compile id).2) (ids : List String) : P (session r ids) := by
  -- A session grows at its end, so the induction takes the last call off.
  induction ids using List.reverseRecOn with
  | nil => exact before
  | append_singleton ids id ih =>
    rw [session_append]
    exact call _ _ ih

/-- After every session the arena is sound and nothing is pending. -/
theorem session_sound (r : Registry) (ids : List String) : (session r ids).Sound [] :=
  session_induction (P := Sound []) (.start r) (fun _ id h => compile_sound h id) ids

/-- A session only adds prelude shapes to its registry. -/
theorem session_registry (r : Registry) (ids : List String) : r.Grows (session r ids).registry :=
  session_induction (P := fun c => r.Grows c.registry) (.refl r)
    (fun c id h => h.trans (compile_grows c id).registry) ids

/-! ### Models of whole registries -/

/-- Compiling one shape after the other is a session if no call fails. -/
theorem foldl_compile_of_compileAll (ids : List String) :
    ∀ {c c' : Compiler}, c.compileAll ids = .ok c' →
      ids.foldl (fun c id => (c.compile id).2) c = c' := by
  induction ids with
  | nil =>
    intro c c' h
    cases h
    rfl
  | cons id ids ih =>
    intro c c' h
    rw [compileAll] at h
    rw [List.foldl_cons]
    generalize c.compile id = result at h ⊢
    obtain ⟨answer, between⟩ := result
    cases answer with
    | error e => cases h
    | ok ref => exact ih h

/-- The model of a registry is what a session with its declared ids leaves. -/
theorem eq_finish_of_ofRegistry {r : Registry} {m : CompiledModel}
    (h : CompiledModel.ofRegistry r = .ok m) : m = (session r r.declaredIds).finish := by
  obtain ⟨c, hc, h⟩ := except_bind_ok h
  cases h
  rw [session, foldl_compile_of_compileAll _ hc]

end ShapeSchema.Compiler
