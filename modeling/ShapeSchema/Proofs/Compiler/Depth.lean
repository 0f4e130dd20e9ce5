import ShapeSchema.Proofs.Compiler.Session

/-!
# `ShapeSchema.Proofs.Compiler.Depth`: the limit on nesting is never met

A compilation goes on to others only if its shape has members, an element, a key or a value, and
those shapes are declared (`Registry.mem_keys_of_slot`). Its id is indexed before it does. So along
a chain of nested compilations the declared ids that are not indexed yet become fewer
(`room_enter_lt`), and with a depth beyond their number no compilation stops for want of depth
(`compileWithin_ne_tooDeep`).

`Registry.nesting` is such a depth, in every session on a registry that a document gave
(`session_ne_tooDeep`).
-/

set_option autoImplicit false

namespace ShapeSchema

/-! ### Shapes that lead to others -/

/-- A prelude shape leads to no other. -/
theorem Shape.shape_notMem_slots_ofPrelude (id target : String) (kind : Kind) :
    Slot.shape target ∉ (Shape.ofPrelude id kind).slots := by
  cases kind <;> simp [Shape.ofPrelude, Shape.slots, OrderedMap.values]

/-- An id whose shape leads to others is declared. -/
theorem Registry.mem_keys_of_slot {r : Registry} {id target : String} {s : Shape}
    (resolved : r.shape? id = some s) (slot : .shape target ∈ s.slots) : id ∈ r.shapes.keys := by
  by_contra undeclared
  have unknown : r.get? id = none := Entries.lookup_eq_none_iff.2 undeclared
  rw [Registry.shape?, unknown, Option.none_or, Option.map_eq_some_iff] at resolved
  obtain ⟨kind, -, rfl⟩ := resolved
  exact Shape.shape_notMem_slots_ofPrelude id target kind slot

namespace Compiler

/-! ### The measure -/

/-- How many ids of a registry a compiler has not indexed. -/
def room (r : Registry) (c : Compiler) : Nat :=
  r.shapes.keys.countP fun id => (c.index.get? id).isNone

/-- Counting less: a stronger condition that fails where the other one holds. -/
theorem countP_lt_countP {α : Type} {p q : α → Bool} {l : List α}
    (weaker : ∀ x ∈ l, p x = true → q x = true) {a : α} (mem : a ∈ l) (holds : q a = true)
    (fails : p a = false) : l.countP p < l.countP q := by
  induction l with
  | nil => cases mem
  | cons b l ih =>
    have rest : ∀ x ∈ l, p x = true → q x = true := fun x hx =>
      weaker x (List.mem_cons_of_mem _ hx)
    rw [List.countP_cons, List.countP_cons]
    -- Where the two tests differ one count grows and the other does not.
    rcases List.mem_cons.1 mem with rfl | later
    · have le := List.countP_mono_left rest
      rw [fails, holds, if_neg Bool.false_ne_true, if_pos rfl]
      omega
    · have lt := ih rest later
      by_cases hb : p b = true
      · rw [hb, weaker b List.mem_cons_self hb]
        omega
      · rw [if_neg hb]
        omega

/-- Ids only get indexed. -/
theorem room_le_of_grows (r : Registry) {c c' : Compiler} (h : c.Grows c') :
    room r c' ≤ room r c := by
  refine List.countP_mono_left fun id _ unindexed => ?_
  cases indexed : c.index.get? id with
  | none => rfl
  | some ref =>
    rw [h.get? indexed] at unindexed
    cases unindexed

/-- Taking a place for a declared id leaves less room. -/
theorem room_enter_lt {r registry : Registry} {c : Compiler} {id : String}
    (unindexed : c.index.get? id = none) (grown : c.registry.Grows registry)
    (declared : id ∈ r.shapes.keys) : room r (c.enter registry id) < room r c := by
  have grows := Grows.enter unindexed grown
  refine countP_lt_countP ?_ declared ?_ ?_
  · intro x _ later
    cases indexed : c.index.get? x with
    | none => rfl
    | some ref =>
      rw [grows.get? indexed] at later
      cases later
  · rw [unindexed]
    rfl
  · rw [enter_index, OrderedMap.get?_insert_self _ unindexed]
    rfl

/-! ### Compilations with enough depth -/

/-- A compilation whose depth is beyond the room that is left does not stop for want of depth: by
induction on the depth, since each nested compilation has less room than the one around it. -/
theorem compileWithin_ne_tooDeep {r : Registry} (depth : Nat) : ∀ {c : Compiler},
    r.Grows c.registry → room r c < depth →
      ∀ id, (compileWithin depth c id).1 ≠ .error .tooDeep := by
  -- On the depth, which is larger than the room that is left for nesting.
  induction depth with
  | zero =>
    intro c _ enough
    omega
  | succ depth ih =>
    intro c grown enough id stopped
    generalize hrun : compileWithin (depth + 1) c id = result at stopped
    have outcome := compileWithin_outcome (depth + 1) c id
    rw [hrun] at outcome
    cases outcome with
    | hit | missing | unsupported | built => cases stopped
    | @failed _ _ final _ shape registry stop unindexed resolved supported lowered =>
      cases stopped
      obtain ⟨held, -, grown'⟩ := Registry.resolve_ok resolved
      rw [Registry.shape?_of_grows grown] at held
      rcases lower_error lowered with slots | ⟨_, _, -, -, other⟩
      · obtain ⟨between, target, later, slot, deep⟩ :=
          exists_stopped_of_fillSlots (compileWithin_grows depth) slots
        -- The id that was just taken is declared, for its shape leads on: less room is left.
        have less := room_enter_lt unindexed grown' (Registry.mem_keys_of_slot held slot)
        have later' := room_le_of_grows r later
        exact ih ((grown.trans grown').trans later.registry) (by omega) target deep
      · cases other

/-- No call of a session on a loaded registry meets the limit on nesting. -/
theorem session_ne_tooDeep {r : Registry} (loaded : r.IsLoaded) (ids : List String) (id : String) :
    ((session r ids).compileWithin (session r ids).registry.nesting id).1 ≠ .error .tooDeep := by
  have grown := session_registry r ids
  have declared : (session r ids).registry.declared = r.shapes.size := grown.declared.trans loaded
  refine compileWithin_ne_tooDeep _ grown ?_ id
  -- There is room for the declared ids at most, and nesting goes one deeper than that.
  have bounded : room r (session r ids) ≤ r.shapes.keys.length := List.countP_le_length
  rw [OrderedMap.keys, List.length_map] at bounded
  rw [Registry.nesting, declared, OrderedMap.size]
  omega

end Compiler

end ShapeSchema
