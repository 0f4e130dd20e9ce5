import Mathlib.Data.Finset.Card
import ShapeSchema.Proofs.Compiler.Depth
import ShapeSchema.Proofs.Compiler.Invariant

/-!
# `ShapeSchema.Proofs.Compiler.Calls`: the calls inside a call

`compileWithin` carries a depth, so that it ends by its form alone. The recursion that is meant has
no such limit, and here it is written down without one: `Calls` has a rule for each way in which a
call goes, and `CallsAll` for the slots of a shape. A derivation is a finite tree of calls, so a
call that has one returns. A derivation lists its calls in the order in which they begin, with how
deep each is nested and whether it went on to lower a shape.

In a session on a loaded registry, the outermost call for any id has a derivation, and all its
derivations agree with `compile` (`session_calls`). Along a chain of nested calls, each but the last
indexes another declared id, so nesting is bounded by the number of ids (`Calls.level_le`). What has
been lowered is indexed, and the index is cut off only after a failure, which ends all calls around
it too, so no id is lowered twice (`Calls.lowers`).
-/

set_option autoImplicit false

namespace ShapeSchema

namespace Compiler

/-- A call for an id: how deep it is nested, the outermost one being at level 1, and whether it went
on to lower the shape of the id. -/
structure Visit where
  level : Nat
  id : String
  lowers : Bool

/-- The ids that visits have lowered, in order. -/
def lowered (visits : List Visit) : List String :=
  (visits.filter Visit.lowers).map Visit.id

/-- Visits one after the other lower their ids one after the other. -/
theorem lowered_append (first second : List Visit) :
    lowered (first ++ second) = lowered first ++ lowered second := by
  rw [lowered, List.filter_append, List.map_append]
  rfl

mutual

/-- A call for an id, at a level: from a compiler to an answer and another compiler, by way of
visits of which it is the first. -/
inductive Calls : Nat → Compiler → String → Except ModelError Ref → Compiler → List Visit → Prop
  | hit {level : Nat} {c : Compiler} {id : String} {ref : Ref}
      (indexed : c.index.get? id = some ref) :
      Calls level c id (.ok ref) c [⟨level, id, false⟩]
  | missing {level : Nat} {c : Compiler} {id : String} {e : ModelError}
      (unindexed : c.index.get? id = none) (notFound : c.registry.resolve id = .error e) :
      Calls level c id (.error e) c [⟨level, id, false⟩]
  | unsupported {level : Nat} {c : Compiler} {id kind : String} {shape : Shape}
      {registry : Registry} (unindexed : c.index.get? id = none)
      (resolved : c.registry.resolve id = .ok (shape, registry))
      (unknown : shape.kind = .unsupported kind) :
      Calls level c id (.error (.unsupportedShape id kind)) { c with registry }
        [⟨level, id, false⟩]
  | failed {level : Nat} {c final : Compiler} {id : String} {shape : Shape} {registry : Registry}
      {e : ModelError} {visits : List Visit} (unindexed : c.index.get? id = none)
      (resolved : c.registry.resolve id = .ok (shape, registry))
      (supported : shape.kind.isSupported = true)
      (slots : CallsAll (level + 1) (c.enter registry id) shape.slots (.error e) final visits) :
      Calls level c id (.error e) (final.rollback c.mark) (⟨level, id, true⟩ :: visits)
  | malformed {level : Nat} {c final : Compiler} {id : String} {shape : Shape}
      {registry : Registry} {refs : List Ref} {defect : Defect} {visits : List Visit}
      (unindexed : c.index.get? id = none)
      (resolved : c.registry.resolve id = .ok (shape, registry))
      (supported : shape.kind.isSupported = true)
      (slots : CallsAll (level + 1) (c.enter registry id) shape.slots (.ok refs) final visits)
      (bad : shape.node refs = .error defect) :
      Calls level c id (.error (.malformed defect)) (final.rollback c.mark)
        (⟨level, id, true⟩ :: visits)
  | built {level : Nat} {c final : Compiler} {id : String} {shape : Shape} {registry : Registry}
      {refs : List Ref} {node : Node} {diagnostics : List Diagnostic} {visits : List Visit}
      (unindexed : c.index.get? id = none)
      (resolved : c.registry.resolve id = .ok (shape, registry))
      (supported : shape.kind.isSupported = true)
      (slots : CallsAll (level + 1) (c.enter registry id) shape.slots (.ok refs) final visits)
      (good : shape.node refs = .ok (node, diagnostics)) :
      Calls level c id (.ok ⟨c.nodes.size⟩) (final.complete ⟨c.nodes.size⟩ node diagnostics)
        (⟨level, id, true⟩ :: visits)

/-- The calls for slots, from left to right and up to the first that fails, all at one level. -/
inductive CallsAll :
    Nat → Compiler → List Slot → Except ModelError (List Ref) → Compiler → List Visit → Prop
  | done {level : Nat} {c : Compiler} : CallsAll level c [] (.ok []) c []
  | plainString {level : Nat} {c final : Compiler} {slots : List Slot}
      {answer : Except ModelError (List Ref)} {visits : List Visit}
      (rest : CallsAll level (c.push .plainString).2 slots answer final visits) :
      CallsAll level c (.plainString :: slots)
        (answer.map ((c.push .plainString).1 :: ·)) final visits
  | shape {level : Nat} {c between final : Compiler} {id : String} {slots : List Slot} {ref : Ref}
      {answer : Except ModelError (List Ref)} {first visits : List Visit}
      (head : Calls level c id (.ok ref) between first)
      (rest : CallsAll level between slots answer final visits) :
      CallsAll level c (.shape id :: slots) (answer.map (ref :: ·)) final (first ++ visits)
  | stopped {level : Nat} {c final : Compiler} {id : String} {slots : List Slot} {e : ModelError}
      {visits : List Visit} (head : Calls level c id (.error e) final visits) :
      CallsAll level c (.shape id :: slots) (.error e) final visits

end

/-! ### Calls and compilations -/

/-- What a compilation answers where a call answers this. -/
def stopped {α : Type} (answer : Except ModelError α) : Except Stop α := answer.mapError .error

/-- A call that answers with a reference is no stop. -/
theorem stopped_ok {α : Type} (a : α) : stopped (.ok a) = .ok a := rfl

/-- A compilation that is not too deep tells what the call answers. -/
theorem stopped_injective {α : Type} {answer answer' : Except ModelError α}
    (same : stopped answer = stopped answer') : answer = answer' := by
  cases answer with
  | ok a =>
    cases answer' with
    | ok a' =>
      cases same
      rfl
    | error e => cases same
  | error e =>
    cases answer' with
    | ok a => cases same
    | error e' =>
      cases same
      rfl

/-- Slots after one that is filled, filled or stopped. -/
theorem fillSlots_cons {visit : Compiler → String → Except Stop Ref × Compiler}
    {c between final : Compiler} {slot : Slot} {slots : List Slot} {ref : Ref}
    {answer : Except ModelError (List Ref)} (head : fillSlot visit c slot = (.ok ref, between))
    (tail : fillSlots visit between slots = (stopped answer, final)) :
    fillSlots visit c (slot :: slots) = (stopped (answer.map (ref :: ·)), final) := by
  rw [fillSlots, head]
  dsimp only
  rw [tail]
  cases answer with
  | ok _ => rfl
  | error _ => rfl

/-- The slots of a shape are filled with one less than the depth of its compilation. -/
theorem enough_of_succ {P : Nat → Prop} (slots : ∃ enough, ∀ depth ≥ enough, P (depth + 1)) :
    ∃ enough, ∀ depth ≥ enough, P depth := by
  obtain ⟨enough, holds⟩ := slots
  refine ⟨enough + 1, fun depth deep => ?_⟩
  obtain ⟨less, rfl⟩ : ∃ less, depth = less + 1 := ⟨depth - 1, by omega⟩
  exact holds less (by omega)

mutual

/-- A call is the compilation with any depth from some depth on. -/
theorem Calls.compileWithin_eq {level : Nat} {c c' : Compiler} {id : String}
    {answer : Except ModelError Ref} {visits : List Visit} :
    Calls level c id answer c' visits →
      ∃ enough, ∀ depth ≥ enough, compileWithin depth c id = (stopped answer, c')
  | .hit indexed => ⟨0, fun _ _ => compileWithin_of_indexed indexed⟩
  | .missing unindexed notFound => ⟨0, fun _ _ => compileWithin_of_missing unindexed notFound⟩
  | .unsupported unindexed resolved unknown =>
    ⟨0, fun _ _ => compileWithin_of_unsupported unindexed resolved unknown⟩
  | .failed unindexed resolved supported slots => by
    obtain ⟨enough, run⟩ := slots.fillSlots_eq
    refine enough_of_succ ⟨enough, fun depth deep => ?_⟩
    rw [compileWithin_succ unindexed resolved supported, lower, run depth deep]
    rfl
  | .malformed unindexed resolved supported slots bad => by
    obtain ⟨enough, run⟩ := slots.fillSlots_eq
    refine enough_of_succ ⟨enough, fun depth deep => ?_⟩
    rw [compileWithin_succ unindexed resolved supported, lower, run depth deep, stopped_ok]
    dsimp only
    rw [bad]
    rfl
  | .built unindexed resolved supported slots good => by
    obtain ⟨enough, run⟩ := slots.fillSlots_eq
    refine enough_of_succ ⟨enough, fun depth deep => ?_⟩
    rw [compileWithin_succ unindexed resolved supported, lower, run depth deep, stopped_ok]
    dsimp only
    rw [good]
    rfl

/-- Calls for slots fill them, with any depth from some depth on. -/
theorem CallsAll.fillSlots_eq {level : Nat} {c c' : Compiler} {slots : List Slot}
    {answer : Except ModelError (List Ref)} {visits : List Visit} :
    CallsAll level c slots answer c' visits →
      ∃ enough, ∀ depth ≥ enough, fillSlots (compileWithin depth) c slots = (stopped answer, c')
  | .done => ⟨0, fun _ _ => rfl⟩
  | .plainString rest => by
    obtain ⟨enough, run⟩ := rest.fillSlots_eq
    exact ⟨enough, fun depth deep => fillSlots_cons rfl (run depth deep)⟩
  | .shape head rest => by
    obtain ⟨enough, run⟩ := head.compileWithin_eq
    obtain ⟨enough', run'⟩ := rest.fillSlots_eq
    exact ⟨max enough enough', fun depth deep =>
      fillSlots_cons (run depth (by omega)) (run' depth (by omega))⟩
  | .stopped head => by
    obtain ⟨enough, run⟩ := head.compileWithin_eq
    refine ⟨enough, fun depth deep => ?_⟩
    rw [fillSlots, fillSlot, run depth deep]
    rfl

end

section Runs

variable {level : Nat} {c c' : Compiler} {id : String} {slots : List Slot} {visits : List Visit}

/-- A call only grows the compiler. -/
theorem Calls.grows {answer : Except ModelError Ref} (call : Calls level c id answer c' visits) :
    c.Grows c' := by
  obtain ⟨enough, run⟩ := call.compileWithin_eq
  have grown := compileWithin_grows enough c id
  rwa [run enough (Nat.le_refl _)] at grown

/-- Calls for slots only grow the compiler. -/
theorem CallsAll.grows {answer : Except ModelError (List Ref)}
    (calls : CallsAll level c slots answer c' visits) : c.Grows c' := by
  obtain ⟨enough, run⟩ := calls.fillSlots_eq
  exact grows_of_fillSlots (compileWithin_grows enough) (run enough (Nat.le_refl _))

/-- A call has one answer, and leaves one compiler. -/
theorem Calls.unique {answer answer' : Except ModelError Ref} {c'' : Compiler}
    {visits' : List Visit} (first : Calls level c id answer c' visits)
    (second : Calls level c id answer' c'' visits') : answer = answer' ∧ c' = c'' := by
  obtain ⟨enough, run⟩ := first.compileWithin_eq
  obtain ⟨enough', run'⟩ := second.compileWithin_eq
  have same := (run (max enough enough') (by omega)).symm.trans (run' _ (by omega))
  obtain ⟨answers, left⟩ := Prod.mk.inj same
  exact ⟨stopped_injective answers, left⟩

end Runs

/-! ### A compilation is a call -/

/-- Slots are filled or stopped either by the first one or after it. -/
theorem of_fillSlots_cons {visit : Compiler → String → Except Stop Ref × Compiler}
    {c final : Compiler} {slot : Slot} {slots : List Slot} {answer : Except ModelError (List Ref)}
    (filled : fillSlots visit c (slot :: slots) = (stopped answer, final)) :
    (∃ e, fillSlot visit c slot = (.error (.error e), final) ∧ answer = .error e) ∨
      ∃ ref between rest, fillSlot visit c slot = (.ok ref, between) ∧
        fillSlots visit between slots = (stopped rest, final) ∧ answer = rest.map (ref :: ·) := by
  cases answer with
  | ok refs =>
    obtain ⟨ref, between, rest, head, tail, rfl⟩ := fillSlots_cons_ok filled
    exact .inr ⟨ref, between, .ok rest, head, tail, rfl⟩
  | error e =>
    rcases fillSlots_cons_error filled with head | ⟨ref, between, head, tail⟩
    · exact .inl ⟨e, head, rfl⟩
    · exact .inr ⟨ref, between, .error e, head, tail, rfl⟩

/-- Slots that are filled, or stopped by an error of the model, are a list of calls if each
compilation that does not meet its limit is a call. -/
theorem exists_callsAll {depth : Nat}
    (each : ∀ {level : Nat} {c c' : Compiler} {id : String} {answer : Except ModelError Ref},
      compileWithin depth c id = (stopped answer, c') →
        ∃ visits, Calls level c id answer c' visits)
    {level : Nat} {c c' : Compiler} {slots : List Slot} {answer : Except ModelError (List Ref)}
    (filled : fillSlots (compileWithin depth) c slots = (stopped answer, c')) :
    ∃ visits, CallsAll level c slots answer c' visits := by
  induction slots generalizing c answer with
  | nil =>
    cases answer with
    | ok refs =>
      cases filled
      exact ⟨[], .done⟩
    | error e => cases filled
  | cons slot slots ih =>
    -- Either the first slot stops the row, or the rest of the row follows it.
    rcases of_fillSlots_cons filled with ⟨e, head, rfl⟩ | ⟨ref, between, rest, head, tail, rfl⟩
    · cases slot with
      | shape id =>
        have call : ∃ visits, Calls level c id (.error e) c' visits := each head
        obtain ⟨visits, call⟩ := call
        exact ⟨visits, .stopped call⟩
      | plainString => cases head
    · obtain ⟨visits, calls⟩ := ih tail
      cases slot with
      | shape id =>
        have call : ∃ first, Calls level c id (.ok ref) between first := each head
        obtain ⟨first, call⟩ := call
        exact ⟨first ++ visits, .shape call calls⟩
      | plainString =>
        cases head
        exact ⟨visits, .plainString calls⟩

/-- A compilation that does not meet its limit is a call: by induction on the depth, which the tree
of calls does not exceed. -/
theorem exists_calls (depth : Nat) :
    ∀ {level : Nat} {c c' : Compiler} {id : String} {answer : Except ModelError Ref},
      compileWithin depth c id = (stopped answer, c') →
        ∃ visits, Calls level c id answer c' visits := by
  induction depth using Nat.strongRecOn with
  | ind depth ih =>
    intro level c c' id answer run
    -- Whichever way the slots went, they had less depth.
    have filled {d : Nat} (less : d < depth) {c final : Compiler} {slots : List Slot}
        {answer : Except ModelError (List Ref)}
        (run : fillSlots (compileWithin d) c slots = (stopped answer, final)) :
        ∃ visits, CallsAll (level + 1) c slots answer final visits :=
      exists_callsAll (ih d less) run
    have outcome := compileWithin_outcome depth c id
    rw [run] at outcome
    cases answer with
    | ok ref =>
      cases outcome with
      | hit indexed => exact ⟨_, .hit indexed⟩
      | built unindexed resolved supported lowered =>
        obtain ⟨refs, fill, good⟩ := lower_ok lowered
        obtain ⟨visits, slots⟩ : ∃ visits, CallsAll _ _ _ (.ok refs) _ visits :=
          filled (Nat.lt_succ_self _) fill
        exact ⟨_, .built unindexed resolved supported slots good⟩
    | error e =>
      cases outcome with
      | missing unindexed notFound => exact ⟨_, .missing unindexed notFound⟩
      | unsupported unindexed resolved unknown =>
        exact ⟨_, .unsupported unindexed resolved unknown⟩
      | failed unindexed resolved supported lowered =>
        rcases lower_error lowered with fill | ⟨refs, defect, fill, bad, malformed⟩
        · obtain ⟨visits, slots⟩ : ∃ visits, CallsAll _ _ _ (.error e) _ visits :=
            filled (Nat.lt_succ_self _) fill
          exact ⟨_, .failed unindexed resolved supported slots⟩
        · cases malformed
          obtain ⟨visits, slots⟩ : ∃ visits, CallsAll _ _ _ (.ok refs) _ visits :=
            filled (Nat.lt_succ_self _) fill
          exact ⟨_, .malformed unindexed resolved supported slots bad⟩

/-! ### Levels -/

/-- Slots are visited only if some slot is that of a shape. -/
theorem CallsAll.exists_shape {level : Nat} {c c' : Compiler} {slots : List Slot}
    {answer : Except ModelError (List Ref)} {visits : List Visit} {v : Visit} :
    CallsAll level c slots answer c' visits → v ∈ visits → ∃ target, .shape target ∈ slots
  | .done, mem => absurd mem List.not_mem_nil
  | .plainString rest, mem => by
    obtain ⟨target, slot⟩ := rest.exists_shape mem
    exact ⟨target, List.mem_cons_of_mem _ slot⟩
  | .shape _ _, _ => ⟨_, List.mem_cons_self⟩
  | .stopped _, _ => ⟨_, List.mem_cons_self⟩

variable {r : Registry}

/-- The calls for the slots of a shape are one level further in and have less room, because a shape
that leads to others is declared. -/
theorem level_le_of_slots {level : Nat} {c : Compiler} {id : String} {shape : Shape}
    {registry : Registry} {visits : List Visit} (grown : r.Grows c.registry)
    (unindexed : c.index.get? id = none)
    (resolved : c.registry.resolve id = .ok (shape, registry))
    (some : ∀ v ∈ visits, ∃ target, .shape target ∈ shape.slots)
    (nested : ∀ v ∈ visits, v.level ≤ level + 1 + room r (c.enter registry id)) :
    ∀ v ∈ (⟨level, id, true⟩ : Visit) :: visits, v.level ≤ level + room r c := by
  obtain ⟨held, -, grown'⟩ := Registry.resolve_ok resolved
  rw [Registry.shape?_of_grows grown] at held
  intro v mem
  rcases List.mem_cons.1 mem with rfl | mem
  · exact Nat.le_add_right _ _
  · obtain ⟨target, slot⟩ := some v mem
    have less := room_enter_lt unindexed grown' (Registry.mem_keys_of_slot held slot)
    have deeper := nested v mem
    omega

mutual

/-- Nesting goes no deeper than there is room. -/
theorem Calls.level_le {level : Nat} {c c' : Compiler} {id : String}
    {answer : Except ModelError Ref} {visits : List Visit} :
    Calls level c id answer c' visits → r.Grows c.registry →
      ∀ v ∈ visits, v.level ≤ level + room r c
  | .hit _, _ => by simp
  | .missing _ _, _ => by simp
  | .unsupported _ _ _, _ => by simp
  | .failed unindexed resolved _ slots, grown =>
    level_le_of_slots grown unindexed resolved (fun _ mem => slots.exists_shape mem)
      (slots.level_le (grown.trans (Registry.resolve_ok resolved).2.2))
  | .malformed unindexed resolved _ slots _, grown =>
    level_le_of_slots grown unindexed resolved (fun _ mem => slots.exists_shape mem)
      (slots.level_le (grown.trans (Registry.resolve_ok resolved).2.2))
  | .built unindexed resolved _ slots _, grown =>
    level_le_of_slots grown unindexed resolved (fun _ mem => slots.exists_shape mem)
      (slots.level_le (grown.trans (Registry.resolve_ok resolved).2.2))

/-- Calls for slots go no deeper than there is room for ids from their level on. -/
theorem CallsAll.level_le {level : Nat} {c c' : Compiler} {slots : List Slot}
    {answer : Except ModelError (List Ref)} {visits : List Visit} :
    CallsAll level c slots answer c' visits → r.Grows c.registry →
      ∀ v ∈ visits, v.level ≤ level + room r c
  | .done, _ => fun _ mem => absurd mem List.not_mem_nil
  | .plainString rest, grown => rest.level_le grown
  | .shape head rest, grown => fun v mem => by
    rcases List.mem_append.1 mem with mem | mem
    · exact head.level_le grown v mem
    · -- The first call has grown the index, so the others have no more room than it had.
      have later := rest.level_le (grown.trans head.grows.registry) v mem
      have less := room_le_of_grows r head.grows
      omega
  | .stopped head, grown => head.level_le grown

end

/-! ### What is lowered -/

/-- What is lowered has not been indexed and is lowered once, and an index that is kept has gained
just that. -/
structure Lowers (c c' : Compiler) (visits : List Visit) (kept : Bool) : Prop where
  nodup : (c.index.keys ++ lowered visits).Nodup
  keys : kept = true → c'.index.keys = c.index.keys ++ lowered visits

section Lowers

variable {c between c' : Compiler} {visits : List Visit} {kept : Bool}

/-- Nothing is lowered by a call that ends at once. -/
theorem Lowers.of_none (none : lowered visits = []) (same : c'.index = c.index) :
    Lowers c c' visits kept := by
  constructor
  · rw [none, List.append_nil]
    exact c.index.distinct
  · intro _
    rw [none, List.append_nil, same]

/-- A shape is indexed before its slots are filled, so they lower other shapes. -/
theorem Lowers.enter {level : Nat} {id : String} {registry : Registry} {filled : Bool}
    (slots : Lowers (c.enter registry id) between visits filled)
    (unindexed : c.index.get? id = none)
    (same : kept = true → filled = true ∧ c'.index = between.index) :
    Lowers c c' (⟨level, id, true⟩ :: visits) kept := by
  have keys : (c.enter registry id).index.keys ++ lowered visits =
      c.index.keys ++ lowered (⟨level, id, true⟩ :: visits) := by
    rw [enter_index, OrderedMap.keys, OrderedMap.entries_insert _ unindexed, List.map_append,
      List.append_assoc]
    rfl
  constructor
  · rw [← keys]
    exact slots.nodup
  · intro yes
    obtain ⟨ok, index⟩ := same yes
    rw [index, slots.keys ok, keys]

/-- After calls that all went well, what later calls lower comes behind. -/
theorem Lowers.append {later : List Visit} (first : Lowers c between visits true)
    (rest : Lowers between c' later kept) : Lowers c c' (visits ++ later) kept := by
  have keys : between.index.keys ++ lowered later = c.index.keys ++ lowered (visits ++ later) := by
    rw [first.keys rfl, lowered_append, List.append_assoc]
  constructor
  · rw [← keys]
    exact rest.nodup
  · intro yes
    rw [rest.keys yes, keys]

end Lowers

/-- A mapped answer is one where the answer was one. -/
theorem isOk_map {ε α β : Type} (f : α → β) (answer : Except ε α) :
    (answer.map f).isOk = answer.isOk := by
  cases answer with
  | ok _ => rfl
  | error _ => rfl

mutual

/-- A call lowers each id once at most: what is indexed already it does not lower, and what it
lowers stays indexed until the call ends or fails. -/
theorem Calls.lowers {level : Nat} {c c' : Compiler} {id : String}
    {answer : Except ModelError Ref} {visits : List Visit} :
    Calls level c id answer c' visits → Lowers c c' visits answer.isOk
  | .hit _ => .of_none rfl rfl
  | .missing _ _ => .of_none rfl rfl
  | .unsupported _ _ _ => .of_none rfl rfl
  | .failed unindexed _ _ slots => slots.lowers.enter unindexed fun no => nomatch no
  | .malformed unindexed _ _ slots _ => slots.lowers.enter unindexed fun no => nomatch no
  | .built unindexed _ _ slots _ => slots.lowers.enter unindexed fun _ => ⟨rfl, rfl⟩

/-- Calls for slots lower no id twice, and what they lower is indexed if they all go well. -/
theorem CallsAll.lowers {level : Nat} {c c' : Compiler} {slots : List Slot}
    {answer : Except ModelError (List Ref)} {visits : List Visit} :
    CallsAll level c slots answer c' visits → Lowers c c' visits answer.isOk
  | .done => .of_none rfl rfl
  | .plainString rest => by
    rw [isOk_map]
    exact ⟨rest.lowers.nodup, rest.lowers.keys⟩
  | .shape head rest => by
    rw [isOk_map]
    exact head.lowers.append rest.lowers
  | .stopped head => head.lowers

end

end Compiler

/-! ### Calls of a session -/

namespace Registry

/-- The ids that a call for `id` may come across: those that are declared, those that a declared
shape leads to, and `id` itself. -/
def idsAround (r : Registry) (id : String) : Finset String :=
  insert id (r.shapes.keys ++ r.shapes.values.flatMap Shape.targets).toFinset

/-- The declared ids are among them. -/
theorem size_le_card_idsAround (r : Registry) (id : String) :
    r.shapes.size ≤ (r.idsAround id).card := by
  have among : r.shapes.keys.toFinset ⊆ r.idsAround id := by
    intro x mem
    rw [List.mem_toFinset] at mem
    exact Finset.mem_insert_of_mem (List.mem_toFinset.2 (List.mem_append_left _ mem))
  have distinct : r.shapes.keys.Nodup := r.shapes.distinct
  have le := Finset.card_le_card among
  rwa [List.toFinset_card_of_nodup distinct, OrderedMap.keys, List.length_map] at le

end Registry

namespace Compiler

/-- A call of a session has an answer of its own, so the depth that it is given does not decide
it. -/
theorem compileWithin_of_session {r : Registry} (loaded : r.IsLoaded) (ids : List String)
    (id : String) :
    (session r ids).compileWithin (session r ids).registry.nesting id =
      (stopped ((session r ids).compile id).1, ((session r ids).compile id).2) := by
  have deep := session_ne_tooDeep loaded ids id
  rw [compile_eq]
  generalize (session r ids).compileWithin (session r ids).registry.nesting id = result at deep ⊢
  obtain ⟨answer, c⟩ := result
  cases answer with
  | ok ref => rfl
  | error stop =>
    cases stop with
    | error e => rfl
    | tooDeep => exact absurd rfl deep

/-- Take any calls on a loaded registry, whatever its shapes lead to, and then a call for any id.

The call returns, in the recursion without a limit: there is a finite tree of calls, and it gives
the answer and the compiler that `compile` gives. In each such tree, calls are nested no deeper than
there are ids around, plus one, and no id is lowered twice. -/
theorem session_calls {r : Registry} (loaded : r.IsLoaded) (ids : List String) (id : String) :
    let c := session r ids
    (∃ visits, Calls 1 c id (c.compile id).1 (c.compile id).2 visits) ∧
      ∀ {answer final visits}, Calls 1 c id answer final visits →
        c.compile id = (answer, final) ∧
          (∀ v ∈ visits, v.level ≤ (r.idsAround id).card + 1) ∧ (lowered visits).Nodup := by
  intro c
  obtain ⟨visits, call⟩ : ∃ visits, Calls 1 c id (c.compile id).1 (c.compile id).2 visits :=
    exists_calls _ (compileWithin_of_session loaded ids id)
  refine ⟨⟨visits, call⟩, fun {answer final visits} other => ⟨?_, fun v mem => ?_, ?_⟩⟩
  · obtain ⟨answers, left⟩ := call.unique other
    exact Prod.ext answers left
  · have nested := other.level_le (session_registry r ids) v mem
    -- There is room for the declared ids at most.
    have bounded : room r c ≤ r.shapes.keys.length := List.countP_le_length
    have around := r.size_le_card_idsAround id
    rw [OrderedMap.keys, List.length_map] at bounded
    rw [OrderedMap.size] at around
    omega
  · exact (List.nodup_append.1 other.lowers.nodup).2.1

/-- A registry with a shape that leads to itself, at once and by way of a list, and another that
leads nowhere. -/
def nestedRegistry : Registry where
  shapes := .ofList
    [("ns#Box",
      { id := "ns#Box"
        kind := .record
        members := .ofList
          [("inner", ⟨"ns#Box", false, []⟩), ("boxes", ⟨"ns#Boxes", false, []⟩)] }),
     ("ns#Boxes",
      { id := "ns#Boxes", kind := .list, members := .empty, element := some "ns#Box" }),
     ("ns#Lid",
      { id := "ns#Lid"
        kind := .record
        members := .ofList
          [("box", ⟨"ns#Box", false, []⟩), ("hinge", ⟨"ns#Hinge", false, []⟩)] })]
  declared := 3

/-- A call that fails after it has compiled a cycle: it returns, four ids are around, and no id is
lowered again on the way out. -/
theorem lid_returns :
    let c := session nestedRegistry []
    nestedRegistry.IsLoaded ∧ (c.compile "ns#Lid").1.isOk = false ∧
      ∃ visits, Calls 1 c "ns#Lid" (c.compile "ns#Lid").1 (c.compile "ns#Lid").2 visits ∧
        (∀ v ∈ visits, v.level ≤ 4 + 1) ∧ (lowered visits).Nodup := by
  intro c
  have loaded : nestedRegistry.IsLoaded := rfl
  have around : (nestedRegistry.idsAround "ns#Lid").card = 4 := by decide +kernel
  obtain ⟨⟨visits, call⟩, every⟩ := session_calls loaded [] "ns#Lid"
  obtain ⟨-, levels, once⟩ := every call
  rw [around] at levels
  exact ⟨loaded, by decide +kernel, visits, call, levels, once⟩

end Compiler

end ShapeSchema
