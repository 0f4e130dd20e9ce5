import Mathlib.Data.List.TakeWhile
import ShapeSchema.Proofs.Schema.Request
import ShapeSchema.Proofs.Schema.Violation
import ShapeSchema.Proofs.Unicode.Casing

/-!
# `ShapeSchema.Proofs.Schema.Operation`: an operation by its bare name

An operation has two names, its id and the part of the id after the last `#`, and the bare name may
be written in any ASCII case. Where the bare name stands for one operation only, both names have the
same request (`requestShape?_bareName`), also where the request is found by convention: the
convention lower-cases the name, and ASCII case is gone after that.

As a shape the two differ. An operation is compiled under its id, to a node that takes every value
(`node_of_operation`), and nothing is compiled under its bare name.
-/

set_option autoImplicit false

namespace ShapeSchema

/-! ### Local names -/

/-- A local name has no `#` in it. -/
theorem hash_notMem_localName (id : String) : '#' ∉ (localName id).toList := by
  rw [localName, String.toList_ofList, List.mem_reverse]
  intro mem
  have kept := List.mem_takeWhile_imp mem
  simp at kept

/-- A name without `#` is its own local name. -/
theorem localName_eq_self {name : String} (plain : '#' ∉ name.toList) : localName name = name := by
  have all : name.toList.reverse.takeWhile (· != '#') = name.toList.reverse := by
    rw [List.takeWhile_eq_self_iff]
    intro c mem
    rw [List.mem_reverse] at mem
    simpa using fun same : c = '#' => plain (same ▸ mem)
  rw [localName, all, List.reverse_reverse, String.ofList_toList]

/-- Texts are the same but for case exactly if their lowered characters are. -/
theorem sameIgnoringCase_iff {s t : String} :
    Text.sameIgnoringCase s t = true ↔ s.map Char.toLower = t.map Char.toLower :=
  beq_iff_eq

/-- Whether a name has a `#` in it does not depend on ASCII case. -/
theorem hash_notMem_of_sameIgnoringCase {s t : String} (same : Text.sameIgnoringCase s t = true)
    (plain : '#' ∉ s.toList) : '#' ∉ t.toList := by
  have characters := congrArg String.toList (sameIgnoringCase_iff.1 same)
  rw [String.toList_map, String.toList_map] at characters
  intro mem
  have folded : Char.toLower '#' ∈ s.toList.map Char.toLower :=
    characters ▸ List.mem_map_of_mem mem
  obtain ⟨c, inside, lower⟩ := List.mem_map.1 folded
  rcases Unicode.eq_or_isLetter_of_toLower lower with rfl | ⟨-, letter⟩
  · exact plain inside
  · exact absurd letter (by decide)

/-- The prelude has no operations. -/
theorem ne_operation_of_builtinKind? {id : String} {kind : Kind}
    (builtin : builtinKind? id = some kind) : kind ≠ .operation := by
  obtain ⟨rest, -, known⟩ := Option.bind_eq_some_iff.1 builtin
  have mem : kind ∈ preludeKinds.map Prod.snd := List.mem_map_of_mem (Entries.mem_of_lookup known)
  rintro rfl
  revert mem
  decide

namespace CompiledModel

variable {m : CompiledModel} {op : Shape} {name : String}

/-! ### The request -/

/-- The name is that of the operation, in some ASCII case, and of no other operation, and no shape
has it as its id. -/
structure BareName (m : CompiledModel) (name : String) (op : Shape) : Prop where
  same : Text.sameIgnoringCase op.localName name = true
  alone : ∀ other ∈ m.operations, Text.sameIgnoringCase other.localName name = true → other = op
  unused : m.registry.get? name = none

/-- An operation is found by its bare name. -/
theorem operation?_bareName (declared : op ∈ m.operations) (bare : m.BareName name op) :
    m.operation? name = some op := by
  rw [operation?, bare.unused, Option.filter_none]
  dsimp only
  cases found : m.operations.find? fun s => Text.sameIgnoringCase s.localName name with
  | none =>
    have missed := List.find?_eq_none.1 found op declared
    exact absurd bare.same missed
  | some other =>
    have same : Text.sameIgnoringCase other.localName name = true :=
      List.find?_some (p := fun s : Shape => Text.sameIgnoringCase s.localName name) found
    rw [bare.alone other (List.mem_of_find?_eq_some found) same]

/-- By convention, a bare name asks for the same requests as the id. -/
theorem isRequestOf_bareName (bare : m.BareName name op) (id : String) :
    isRequestOf name id = isRequestOf op.id id := by
  have plain := hash_notMem_of_sameIgnoringCase bare.same (hash_notMem_localName op.id)
  have lower : Unicode.lowercase name = Unicode.lowercase (localName op.id) :=
    Unicode.lowercase_eq_of_map_toLower (sameIgnoringCase_iff.1 bare.same).symm
  rw [isRequestOf, isRequestOf, localName_eq_self plain, lower]

/-- An operation has one request, by its id and by its bare name. -/
theorem requestShape?_bareName (keyed : m.registry.Keyed) (declared : op ∈ m.operations)
    (bare : m.BareName name op) : m.requestShape? name = m.requestShape? op.id := by
  rw [requestShape?, requestShape?, operation?_bareName declared bare,
    operation?_id keyed declared]
  simp only [funext (isRequestOf_bareName bare)]

/-- A request is a compiled shape. -/
theorem isSome_get?_of_requestShape? {request : String}
    (known : m.requestShape? name = some request) : (m.get? request).isSome = true := by
  rw [requestShape?] at known
  cases input : ((m.operation? name).bind (·.input)).filter fun id => (m.get? id).isSome with
  | some declared =>
    rw [input] at known
    cases known
    exact (Option.filter_eq_some_iff.1 input).2
  | none =>
    rw [input] at known
    exact isSome_get?_iff.2 (List.mem_of_find?_eq_some known)

/-! ### The node -/

section Compiled

variable {r : Registry} (compiled : ofRegistry r = .ok m)

include compiled

/-- Every compiled id has a shape in the registry. -/
theorem get?_eq_none_of_unregistered (unused : m.registry.get? name = none) :
    m.get? name = none := by
  have whole := Compiler.eq_finish_of_ofRegistry compiled
  cases indexed : m.get? name with
  | none => rfl
  | some ref =>
    rw [whole] at indexed unused
    obtain ⟨s, held, -⟩ := (Compiler.session_sound r r.declaredIds).of_indexed indexed
    rw [show (Compiler.session r r.declaredIds).registry.get? name = none from unused] at held
    cases held

/-- The operations of a model are declared, since the prelude has none. -/
theorem mem_declaredIds_of_operation (loaded : r.IsLoaded) (keyed : m.registry.Keyed)
    (declared : op ∈ m.operations) : op.id ∈ r.declaredIds := by
  obtain ⟨mem, kind⟩ := List.mem_filter.1 declared
  have held : m.registry.shape? op.id = some op := by
    rw [Registry.shape?, keyed.get? mem, Option.some_or]
  rw [Registry.shape?_of_grows (registry_grows compiled)] at held
  -- A registered shape that is not declared came from the prelude.
  by_contra undeclared
  rw [Registry.shape?, (Registry.get?_eq_none_iff loaded).2 undeclared, Option.none_or,
    Option.map_eq_some_iff] at held
  obtain ⟨builtin, known, same⟩ := held
  rw [← same] at kind
  exact ne_operation_of_builtinKind? known (beq_iff_eq.1 kind)

/-- An operation is compiled under its id, and its node is empty. -/
theorem node_of_operation (loaded : r.IsLoaded) (keyed : m.registry.Keyed)
    (declared : op ∈ m.operations) : ∃ ref, m.get? op.id = some ref ∧ m.node ref = .empty := by
  have declaredId := mem_declaredIds_of_operation compiled loaded keyed declared
  obtain ⟨ref, indexed⟩ := exists_get?_of_mem_ids (mem_ids_of_declared compiled declaredId)
  obtain ⟨registered, kind⟩ := List.mem_filter.1 declared
  have found := keyed.get? registered
  refine ⟨ref, indexed, ?_⟩
  rw [Compiler.eq_finish_of_ofRegistry compiled] at indexed found ⊢
  -- The node is the one that the shape of the id was compiled to, and that shape is the operation.
  obtain ⟨shape, held, refs, diagnostics, -, made⟩ :=
    (Compiler.session_sound r r.declaredIds).built indexed
  rw [show (Compiler.session r r.declaredIds).registry.get? op.id = some op from found] at held
  cases held
  have operation : op.kind = .operation := beq_iff_eq.1 kind
  unfold Shape.node at made
  rw [operation] at made
  exact (congrArg Prod.fst (Except.ok.inj made)).symm

end Compiled

/-- The empty node takes every value. -/
theorem violations_of_empty {root : Ref} (empty : m.node root = .empty) (value : Json) :
    m.violations root value = [] := by
  have takes (v : Json) : Node.empty.mismatch v = [] := mismatch_eq_nil_iff.2 rfl
  cases value with
  | string s =>
    rw [violations, Json.violations]
    simp only [empty]
    exact takes _
  | _ =>
    rw [violations, Json.violations]
    simp only [empty, takes]

end CompiledModel

end ShapeSchema
