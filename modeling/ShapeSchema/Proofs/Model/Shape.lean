import ShapeSchema.Model.Shape
import ShapeSchema.Proofs.Model.Spelling
import ShapeSchema.Proofs.OrderedMap

/-!
# `ShapeSchema.Proofs.Model.Shape`: what a declaration resolves to

`Shape.Resolved` says what can be read off a shape about the declaration that it was resolved from.
Its members come from two maps. The identifiers are there first, and each declared member is
inserted after them, so the order is that of the identifiers and then of what is new among the
declared members (`Declaration.Merges`).

A name can ask to be required in three ways (`Declaration.Asks`), and one thing undoes that: a
declared member takes the place of the identifier with its name, and then it is as required as it
was declared (`Declaration.Loosens`).
-/

set_option autoImplicit false

namespace ShapeSchema

namespace Declaration

/-! ### Names that are required -/

/-- A name is to be required: it is that of an identifier, or the list of required names has it, or
the member that is declared under it has the trait. -/
def Asks (d : Declaration) (name : String) : Prop :=
  name ∈ d.identifiers.keys ∨ name ∈ d.required ∨
    ∃ declared, d.members.get? name = some declared ∧
      Trait.payloads "required" declared.traits.entries ≠ []

/-- The name of an identifier stands for a member that is declared with that name, and nothing
requires that member. -/
def Loosens (d : Declaration) (name : String) : Prop :=
  name ∈ d.identifiers.keys ∧
    ∃ declared, d.members.get? name = some declared ∧ ¬ d.Needs (name, declared)

/-- The members of a shape, in terms of its declaration. A declared member is not told from an
identifier by its place, but it brings its own target and its own requiredness. -/
structure Merges (d : Declaration) (members : OrderedMap Member) : Prop where
  names : members.keys = d.identifiers.keys ++ d.members.keys.filter (· ∉ d.identifiers.keys)
  target : ∀ name member, members.get? name = some member →
    ((d.members.get? name).map (·.target)).or (d.identifiers.get? name) = some member.target
  required : ∀ name member, members.get? name = some member →
    (member.required = true ↔ d.Asks name ∧ ¬ d.Loosens name)
  declared : ∀ name ∈ d.required, name ∈ d.members.keys

/-- A declared member is asked for and not loosened exactly if it is needed. -/
theorem needs_iff {d : Declaration} {name : String} {declared : MemberDeclaration}
    (found : d.members.get? name = some declared) :
    d.Needs (name, declared) ↔ d.Asks name ∧ ¬ d.Loosens name := by
  constructor
  · intro needed
    refine ⟨?_, ?_⟩
    · rcases needed with listed | carries
      · exact .inr (.inl listed)
      · exact .inr (.inr ⟨declared, found, carries⟩)
    · rintro ⟨-, other, found', free⟩
      cases found.symm.trans found'
      exact free needed
  · rintro ⟨asked, firm⟩
    by_contra free
    -- An identifier that is declared too is as the declared member says.
    rcases asked with identifier | listed | ⟨other, found', carries⟩
    · exact firm ⟨identifier, declared, found, free⟩
    · exact free (.inl listed)
    · cases found.symm.trans found'
      exact free (.inr carries)

end Declaration

namespace Shape

/-! ### The steps of resolving -/

/-- A member keeps its target. It is required if the shape lists it or one of its own traits says
so. -/
theorem of_resolveMember {id : String} {required : List String} {name : String}
    {declared : MemberDeclaration} {member : Member}
    (resolved : resolveMember id required name declared = .ok member) :
    member.target = declared.target ∧
      (member.required = true ↔
        name ∈ required ∨ Trait.payloads "required" declared.traits.entries ≠ []) := by
  obtain ⟨traits, parsed, last⟩ := except_bind_ok resolved
  cases last
  refine ⟨rfl, ?_⟩
  show (Trait.isRequired traits || required.contains name) = true ↔ _
  rw [Bool.or_eq_true, Trait.isRequired_of_parseAll parsed, List.contains_iff_mem]
  exact Or.comm

/-- The declared members are resolved one by one, and inserted into the identifiers. -/
theorem of_resolveMembers {id : String} {d : Declaration} {members : OrderedMap Member}
    (resolved : resolveMembers id d = .ok members) :
    ∃ declared : List (String × Member),
      List.Forall₂ (fun e x => e.1 = x.1 ∧ resolveMember id d.required e.1 e.2 = .ok x.2)
        d.members.entries declared ∧
      members = declared.foldl (fun members e => members.insert e.1 e.2)
        (d.identifiers.map identifierMember) := by
  obtain ⟨declared, each, last⟩ := except_bind_ok resolved
  cases last
  exact ⟨declared, forall₂_of_mapM_values each, rfl⟩

/-- What a shape has of the declaration that it was resolved from. -/
structure Resolved (id : String) (d : Declaration) (s : Shape) : Prop where
  name : s.id = id
  kind : s.kind = .ofTag d.kind
  declared : ∀ name ∈ d.required, name ∈ d.members.keys
  members : resolveMembers id d = .ok s.members
  traits : Trait.parseAll id d.traits = .ok s.traits

/-- What `resolve` answers is the declaration, resolved part by part. -/
theorem resolved_of_resolve {id : String} {d : Declaration} {s : Shape}
    (h : resolve id d = .ok s) : Resolved id d s := by
  rw [resolve] at h
  split at h
  · cases h
  · rename_i strayless
    obtain ⟨members, hmembers, h⟩ := except_bind_ok h
    obtain ⟨traits, htraits, h⟩ := except_bind_ok h
    cases h
    refine ⟨rfl, rfl, fun name mem => ?_, hmembers, htraits⟩
    -- No name was found that the members do not have.
    have held : d.members.contains name = true := by
      simpa using List.find?_eq_none.1 strayless name mem
    by_contra undeclared
    rw [OrderedMap.contains, OrderedMap.get?_eq_none_iff.2 undeclared] at held
    cases held

/-! ### The members -/

/-- A member was declared, or else it is an identifier: the declared one is looked at first, since
it was inserted last. -/
theorem member_cases {id : String} {d : Declaration} {members : OrderedMap Member}
    (resolved : resolveMembers id d = .ok members) {name : String} {member : Member}
    (found : members.get? name = some member) :
    (∃ declared, d.members.get? name = some declared ∧
        resolveMember id d.required name declared = .ok member) ∨
      d.members.get? name = none ∧
        ∃ target, d.identifiers.get? name = some target ∧ member = identifierMember target := by
  obtain ⟨entries, each, rfl⟩ := of_resolveMembers resolved
  have keys : d.members.keys = entries.map Prod.fst :=
    map_eq_of_forall₂ (fun _ _ same => same.1) each
  -- A name is looked up among the declared members first, and then among the identifiers.
  have distinct : (entries.map Prod.fst).Nodup := keys ▸ d.members.distinct
  rw [OrderedMap.get?_foldl_insert distinct, OrderedMap.get?_map] at found
  cases known : d.members.get? name with
  | some declared =>
    obtain ⟨⟨_, member'⟩, mem, rfl, answer⟩ :=
      exists_of_forall₂ each (OrderedMap.get?_eq_some_iff.1 known)
    rw [Entries.lookup_of_mem distinct mem, Option.some_or] at found
    cases found
    exact .inl ⟨declared, rfl, answer⟩
  | none =>
    have absent : entries.lookup name = none := by
      rw [Entries.lookup_eq_none_iff, ← keys]
      exact OrderedMap.get?_eq_none_iff.1 known
    rw [absent, Option.none_or] at found
    obtain ⟨target, bound, rfl⟩ := Option.map_eq_some_iff.1 found
    exact .inr ⟨rfl, target, bound, rfl⟩

/-- The identifiers come first, in their order, and then the members that are not among them. -/
theorem keys_of_resolveMembers {id : String} {d : Declaration} {members : OrderedMap Member}
    (resolved : resolveMembers id d = .ok members) :
    members.keys = d.identifiers.keys ++ d.members.keys.filter (· ∉ d.identifiers.keys) := by
  obtain ⟨entries, each, rfl⟩ := of_resolveMembers resolved
  have keys : d.members.keys = entries.map Prod.fst :=
    map_eq_of_forall₂ (fun _ _ same => same.1) each
  rw [OrderedMap.keys_foldl_insert (keys ▸ d.members.distinct), OrderedMap.keys_map, keys]

/-- The members of a shape are merged from its declaration. -/
theorem merges_of_resolve {id : String} {d : Declaration} {s : Shape}
    (h : resolve id d = .ok s) : d.Merges s.members := by
  have resolved := resolved_of_resolve h
  refine ⟨keys_of_resolveMembers resolved.members, ?_, ?_, resolved.declared⟩
  · intro name member found
    rcases member_cases resolved.members found with
      ⟨declared, known, answer⟩ | ⟨known, target, bound, rfl⟩
    · rw [known, Option.map_some, Option.some_or, (of_resolveMember answer).1]
    · rw [known, bound]
      rfl
  · intro name member found
    rcases member_cases resolved.members found with
      ⟨declared, known, answer⟩ | ⟨known, target, bound, rfl⟩
    · exact (of_resolveMember answer).2.trans (Declaration.needs_iff known)
    · have identifier : name ∈ d.identifiers.keys := by
        by_contra unbound
        rw [OrderedMap.get?_eq_none_iff.2 unbound] at bound
        cases bound
      -- No member is declared under the name, so nothing takes the identifier's place.
      have firm : ¬ d.Loosens name := by
        rintro ⟨-, declared, found, -⟩
        rw [known] at found
        cases found
      exact ⟨fun _ => ⟨.inl identifier, firm⟩, fun _ => rfl⟩

/-- A name that asks to be required is that of a member. -/
theorem mem_keys_of_asks {id : String} {d : Declaration} {s : Shape} (h : resolve id d = .ok s)
    {name : String} (asked : d.Asks name) : name ∈ s.members.keys := by
  have merged := merges_of_resolve h
  rw [merged.names, List.mem_append, List.mem_filter]
  by_cases identifier : name ∈ d.identifiers.keys
  · exact .inl identifier
  · refine .inr ⟨?_, by simpa using identifier⟩
    rcases asked with bound | listed | ⟨declared, found, -⟩
    · exact absurd bound identifier
    · exact merged.declared name listed
    · by_contra unknown
      rw [OrderedMap.get?_eq_none_iff.2 unknown] at found
      cases found

end Shape

end ShapeSchema
