import ShapeSchema.Model.Registry
import ShapeSchema.Proofs.Model.Spelling
import ShapeSchema.Proofs.OrderedMap

/-!
# `ShapeSchema.Proofs.Model.Settled`: what is left of a spelling

Resolving a declaration keeps the order in which its traits are written, and keeps a trait
`required` beside the requiredness it stands for. Nothing else of the spelling is left in a shape.
`Shape.settled` takes these two away: only the first trait of each name stays, and `required` goes.

Two spellings of a model resolve together, and to registries with the same settled shapes
(`Spelling.Model.load_settled`).
-/

set_option autoImplicit false

namespace ShapeSchema

/-- The member with its traits settled. -/
def Member.settled (m : Member) : Member := { m with traits := Trait.settled m.traits }

/-- The shape with its own traits settled, and those of its members. -/
def Shape.settled (s : Shape) : Shape :=
  { s with members := s.members.map Member.settled, traits := Trait.settled s.traits }

/-- The registry with its shapes settled. -/
def Registry.settled (r : Registry) : Registry := { r with shapes := r.shapes.map Shape.settled }

namespace Spelling

/-! ### Traits -/

/-- Two spellings of a descriptor stand for the same literal. -/
theorem Descriptor.literal?_eq {descriptor descriptor' : Json}
    (h : Descriptor descriptor descriptor') :
    Trait.literal? descriptor = Trait.literal? descriptor' := by
  have of_describes {literal : String} {d : Json} (h : Describes literal d) :
      Trait.literal? d = some literal := by
    cases h with
    | text => rfl
    | object value => simp [Trait.literal?, value, Json.asString?]
  cases h with
  | same => rfl
  | literal h h' => rw [of_describes h, of_describes h']

/-- Payloads with the same descriptors give the same trait. -/
theorem Payload.ofPayload?_eq {name : String} {payload payload' : Json}
    (h : Payload name payload payload') :
    Trait.ofPayload? name payload = Trait.ofPayload? name payload' := by
  cases h with
  | same => rfl
  | enum h h' each =>
    have literals := mapM_eq_of_forall₂ (fun _ _ same => same.literal?_eq) each
    simp only [Trait.ofPayload?, h, h', Option.bind_some, literals]

namespace TraitEntries

variable {entries entries' : List (String × Json)}

/-- Two spellings of a map of traits are readable together. -/
theorem readable_iff (h : TraitEntries entries entries') :
    (∀ e ∈ entries, Trait.Readable e) ↔ ∀ e ∈ entries', Trait.Readable e := by
  rw [Trait.readable_iff, Trait.readable_iff]
  refine forall₂_congr fun name known => ?_
  have payloads := h name known
  constructor
  · intro readable payload' mem
    obtain ⟨payload, mem, same⟩ := exists_of_forall₂ payloads.flip mem
    exact same.ofPayload?_eq ▸ readable payload mem
  · intro readable payload mem
    obtain ⟨payload', mem, same⟩ := exists_of_forall₂ payloads mem
    exact same.ofPayload?_eq ▸ readable payload' mem

/-- They denote the same traits, once these are settled. -/
theorem settled_eq (h : TraitEntries entries entries') :
    Trait.settled (entries.filterMap Trait.ofField?) =
      Trait.settled (entries'.filterMap Trait.ofField?) := by
  refine List.filterMap_congr fun name known => ?_
  rw [Trait.find?_ofEntries, Trait.find?_ofEntries]
  exact findSome?_eq_of_forall₂ (fun _ _ same => same.ofPayload?_eq) (h name known)

/-- Two spellings of a map of traits are parsed alike. Whether `required` is among them is told by
the payloads for it. -/
theorem parseAll (owner : String) {raw raw' : OrderedMap Json}
    (h : TraitEntries raw.entries raw'.entries) :
    Option.Rel (fun ts ts' => Trait.settled ts = Trait.settled ts' ∧
        (Trait.isRequired ts = true ↔ Trait.payloads "required" raw.entries ≠ []) ∧
        (Trait.isRequired ts' = true ↔ Trait.payloads "required" raw'.entries ≠ []))
      (Trait.parseAll owner raw).toOption (Trait.parseAll owner raw').toOption := by
  have parsed {raw : OrderedMap Json} (readable : ∀ e ∈ raw.entries, Trait.Readable e) :
      Trait.parseAll owner raw = .ok (raw.entries.filterMap Trait.ofField?) :=
    Trait.parseAll_eq_ok_iff.2 ⟨readable, rfl⟩
  have unparsed (raw : OrderedMap Json) (broken : ¬ ∀ e ∈ raw.entries, Trait.Readable e) :
      (Trait.parseAll owner raw).toOption = none := by
    rw [Option.eq_none_iff_forall_ne_some]
    intro ts answer
    exact broken (Trait.parseAll_eq_ok_iff.1 (toOption_eq_some_iff.1 answer)).1
  -- The entries differ only where nothing is read, so both lists are readable or neither is.
  by_cases readable : ∀ e ∈ raw.entries, Trait.Readable e
  · have first := parsed readable
    have second := parsed (h.readable_iff.1 readable)
    rw [first, second]
    exact .some ⟨h.settled_eq, Trait.isRequired_of_parseAll first,
      Trait.isRequired_of_parseAll second⟩
  · rw [unparsed raw readable, unparsed raw' (fun r => readable (h.readable_iff.2 r))]
    exact .none

end TraitEntries

end Spelling

/-! ### Declarations -/

namespace Declaration.Alike

open Spelling (TraitEntries)

variable {d d' : Declaration}

/-- Related members are resolved alike. -/
theorem resolveMember (id : String) {e e' : String × MemberDeclaration} (name : e.1 = e'.1)
    (target : e.2.target = e'.2.target)
    (traits : TraitEntries e.2.traits.entries e'.2.traits.entries)
    (needed : d.Needs e ↔ d'.Needs e') :
    Option.Rel (fun m m' => m.settled = m'.settled)
      (Shape.resolveMember id d.required e.1 e.2).toOption
      (Shape.resolveMember id d'.required e'.1 e'.2).toOption := by
  rw [Shape.resolveMember, Shape.resolveMember, toOption_bind, toOption_bind, name]
  refine rel_bind (traits.parseAll _) fun ts ts' ⟨settled, own, own'⟩ => ?_
  have required : (Trait.isRequired ts || d.required.contains e'.1) =
      (Trait.isRequired ts' || d'.required.contains e'.1) := by
    rw [Bool.eq_iff_iff]
    simp only [Bool.or_eq_true, own, own', List.contains_iff_mem]
    rw [Declaration.Needs, Declaration.Needs, name] at needed
    exact Or.comm.trans (needed.trans Or.comm)
  refine .some ?_
  simp only [Member.settled, target, settled, required]

/-- Members with the same names, in the same order, that are settled alike. -/
theorem settled_members (h : d.Alike d') (id : String) :
    Option.Rel (fun ms ms' => ms.map Member.settled = ms'.map Member.settled)
      (Shape.resolveMembers id d).toOption (Shape.resolveMembers id d').toOption := by
  rw [Shape.resolveMembers, Shape.resolveMembers, toOption_bind, toOption_bind, toOption_mapM,
    toOption_mapM, h.identifiers]
  refine rel_bind (R := List.Forall₂ fun e e' => e.1 = e'.1 ∧ e.2.settled = e'.2.settled)
    (rel_mapM (fun e e' ⟨name, target, traits, needed⟩ => ?_) h.members) fun ms ms' same => ?_
  · have entries : (ms.map fun e => (e.1, e.2.settled)) = ms'.map fun e => (e.1, e.2.settled) :=
      map_eq_of_forall₂ (fun e e' ⟨name, settled⟩ => by rw [name, settled]) same
    refine .some ?_
    rw [OrderedMap.map_foldl_insert, OrderedMap.map_foldl_insert, entries]
  · rw [toOption_bind, toOption_bind]
    exact rel_bind (resolveMember id name target traits needed) fun m m' settled =>
      .some ⟨name, settled⟩

/-- A name that is required without being declared is one in both spellings. -/
theorem stray_iff (h : d.Alike d') :
    (∃ name ∈ d.required, d.members.contains name = false) ↔
      ∃ name ∈ d'.required, d'.members.contains name = false := by
  have keys : d.members.keys = d'.members.keys :=
    map_eq_of_forall₂ (fun e e' same => same.1) h.members
  have unknown (d : Declaration) (name : String) :
      d.members.contains name = false ↔ name ∉ d.members.keys := by
    rw [OrderedMap.contains, Option.isSome_eq_false_iff, Option.isNone_iff_eq_none]
    exact Entries.lookup_eq_none_iff
  simp only [unknown, ← keys]
  constructor
  · rintro ⟨name, mem, new⟩
    exact ⟨name, (h.stray name new).1 mem, new⟩
  · rintro ⟨name, mem, new⟩
    exact ⟨name, (h.stray name new).2 mem, new⟩

/-- Declarations that differ in spelling only stand for shapes that are settled alike. -/
theorem resolve (h : d.Alike d') (id : String) :
    Option.Rel (fun s s' => s.settled = s'.settled) (Shape.resolve id d).toOption
      (Shape.resolve id d').toOption := by
  -- Whether a name that is required is missing is the same for both, but not which one.
  have checked : (d.required.find? fun name => !d.members.contains name).isSome =
      (d'.required.find? fun name => !d'.members.contains name).isSome := by
    rw [Bool.eq_iff_iff, List.find?_isSome, List.find?_isSome]
    simpa using h.stray_iff
  rw [Shape.resolve, Shape.resolve]
  cases stray : d.required.find? fun name => !d.members.contains name with
  | some name =>
    cases stray' : d'.required.find? fun name => !d'.members.contains name with
    | some name' => exact .none
    | none => rw [stray, stray'] at checked; cases checked
  | none =>
    cases stray' : d'.required.find? fun name => !d'.members.contains name with
    | some name' => rw [stray, stray'] at checked; cases checked
    | none =>
      simp only [toOption_bind]
      refine rel_bind (h.settled_members id) fun members members' sameMembers => ?_
      refine rel_bind (h.traits.parseAll id) fun traits traits' ⟨sameTraits, _⟩ => ?_
      refine .some ?_
      simp only [Shape.settled, sameMembers, sameTraits, h.kind, h.element, h.key, h.value,
        h.input, h.output, h.operations]

end Declaration.Alike

/-! ### Documents -/

/-- Registries of the same declarations are settled alike. -/
theorem Registry.ofDocument_settled {d d' : Document}
    (h : Option.Rel Spelling.SameDeclarations d.shapes d'.shapes) :
    Option.Rel (fun r r' => r.settled = r'.settled) (Registry.ofDocument d).toOption
      (Registry.ofDocument d').toOption := by
  rw [Registry.ofDocument, Registry.ofDocument]
  cases shapes : d.shapes with
  | none =>
    rw [shapes] at h
    cases shapes' : d'.shapes with
    | none => exact .none
    | some => rw [shapes'] at h; cases h
  | some declarations =>
    rw [shapes] at h
    cases shapes' : d'.shapes with
    | none => rw [shapes'] at h; cases h
    | some declarations' =>
      rw [shapes'] at h
      cases h with | some same
      -- Both documents declare shapes. They are resolved one by one, and the tables agree entry by
      -- entry.
      simp only [toOption_bind, toOption_mapM]
      refine rel_bind (R := List.Forall₂ fun e e' => e.1 = e'.1 ∧ e.2.settled = e'.2.settled)
        (rel_mapM (fun e e' ⟨id, alike⟩ => ?_) same) fun es es' resolved => ?_
      · have entries : (es.map fun e => (e.1, e.2.settled)) =
            es'.map fun e => (e.1, e.2.settled) :=
          map_eq_of_forall₂ (fun e e' ⟨id, settled⟩ => by rw [id, settled]) resolved
        have tables : (OrderedMap.ofList es).map Shape.settled =
            (OrderedMap.ofList es').map Shape.settled := by
          rw [OrderedMap.ofList, OrderedMap.ofList, OrderedMap.map_foldl_insert,
            OrderedMap.map_foldl_insert, entries]
        have sizes : (OrderedMap.ofList es).size = (OrderedMap.ofList es').size := by
          rw [← OrderedMap.size_map Shape.settled, tables, OrderedMap.size_map]
        refine .some ?_
        simp only [Registry.settled, tables, sizes]
      · simp only [id]
        exact rel_bind (alike.resolve e'.1) fun s s' settled => .some ⟨rfl, settled⟩

/-- Two spellings of a model load together, and to registries that are settled alike. -/
theorem Spelling.Model.load_settled {document document' : Json}
    (h : Spelling.Model document document') :
    Option.Rel (fun r r' => r.settled = r'.settled) (Registry.load document).toOption
      (Registry.load document').toOption := by
  simp only [Registry.load, decodeJson, toOption_bind, toOption_mapError]
  exact rel_bind h.alike fun d d' same => Registry.ofDocument_settled same

end ShapeSchema
