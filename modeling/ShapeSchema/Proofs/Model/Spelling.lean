import ShapeSchema.Proofs.Model.Declaration
import ShapeSchema.Proofs.Model.Trait

/-!
# `ShapeSchema.Proofs.Model.Spelling`: two spellings of the same model

A model can be written in more than one way. A trait is named bare or in the prelude namespace,
the descriptors of an enum stand in a sequence or in a mapping, a literal is a bare string or the
`value` of an object, a member is required by the list of its shape or by a trait of its own, and
traits that the library does not understand may be there or not. `Spelling.Model` relates two
documents that differ in such ways and in no other.

Two spellings are decoded alike: both decoders succeed or none does (`Spelling.Shape.alike`), and
what the declarations say is the same (`Declaration.Alike`). A record in such a document may itself
be written as an object or as an array, so the relations speak about its parts.
-/

set_option autoImplicit false

namespace ShapeSchema

open Decoder (Reading)

namespace Spelling

/-! ### Traits -/

/-- A descriptor stands for a literal. -/
inductive Describes (literal : String) : Json → Prop
  | text : Describes literal (.string literal)
  | object {fields : List (String × Json)}
      (value : fields.lookup "value" = some (.string literal)) :
      Describes literal (.object fields)

/-- Enum descriptors that are the same or stand for the same literal. -/
inductive Descriptor : Json → Json → Prop
  | same (descriptor : Json) : Descriptor descriptor descriptor
  | literal {literal : String} {descriptor descriptor' : Json} (h : Describes literal descriptor)
      (h' : Describes literal descriptor') : Descriptor descriptor descriptor'

/-- Payloads of a trait that are the same or, for an enum, have the same descriptors in order. -/
inductive Payload : String → Json → Json → Prop
  | same (name : String) (payload : Json) : Payload name payload payload
  | enum {payload payload' : Json} {descriptors descriptors' : List Json}
      (h : Trait.descriptors? payload = some descriptors)
      (h' : Trait.descriptors? payload' = some descriptors')
      (each : List.Forall₂ Descriptor descriptors descriptors') : Payload "enum" payload payload'

/-- Entries that have, for each trait whose payload is read, the same payloads in order, under
whichever of its names. What stands under other names does not matter. -/
def TraitEntries (entries entries' : List (String × Json)) : Prop :=
  ∀ name ∈ Trait.payloadNames,
    List.Forall₂ (Payload name) (Trait.payloads name entries) (Trait.payloads name entries')

/-- Maps of traits. -/
inductive Traits : Json → Json → Prop
  | same (traits : Json) : Traits traits traits
  | objects {entries entries' : List (String × Json)} (h : TraitEntries entries entries') :
      Traits (.object entries) (.object entries')

/-! ### Members -/

/-- The traits of a member, as they are written. -/
def traitsOf (member : Json) : Json := member.partOr 1 "traits" (.object [])

/-- Two spellings of a member, its requiredness aside. -/
structure Member (member member' : Json) : Prop where
  record : member.isRecord 2 = member'.isRecord 2
  target : member.part? 0 "target" = member'.part? 0 "target"
  traits : Traits (traitsOf member) (traitsOf member')

/-- The list of a shape has a name. -/
def Lists (required : Json) (name : String) : Prop :=
  ∃ items, required = .array items ∧ .string name ∈ items

/-- A member has a trait `required`, under either of its names. -/
def HasRequired (member : Json) : Prop :=
  ∃ entries, traitsOf member = .object entries ∧ Trait.payloads "required" entries ≠ []

/-- Two spellings of the members of a shape. Each member is required by the list or by a trait in
both or in none. -/
inductive Members (required required' : Json) : Json → Json → Prop
  | other {members : Json} (h : ∀ entries, members ≠ .object entries) :
      Members required required' members members
  | objects {entries entries' : List (String × Json)}
      (each : List.Forall₂ (fun e e' => e.1 = e'.1 ∧ Member e.2 e'.2 ∧
        (Lists required e.1 ∨ HasRequired e.2 ↔ Lists required' e'.1 ∨ HasRequired e'.2))
        entries entries') :
      Members required required' (.object entries) (.object entries')

/-- The names that are declared by the members of a shape. -/
def declaredNames : Json → List String
  | .object entries => entries.map Prod.fst
  | _ => []

/-- Two lists of required members that differ in names of declared members only. -/
inductive Required (declared : List String) : Json → Json → Prop
  | same (required : Json) : Required declared required required
  | arrays {items items' : List Json}
      (others : ∀ item, (∀ name ∈ declared, item ≠ .string name) →
        (item ∈ items ↔ item ∈ items')) :
      Required declared (.array items) (.array items')

/-- The element, key or value of a shape, which has no requiredness. -/
inductive Element : Json → Json → Prop
  | same (member : Json) : Element member member
  | member {member member' : Json} (record : member.isRecord 2 = true) (h : Member member member') :
      Element member member'

/-! ### Shapes and models -/

/-- Two spellings of a shape. -/
structure Shape (shape shape' : Json) : Prop where
  record : shape.isRecord 11 = shape'.isRecord 11
  kind : shape.part? 0 "type" = shape'.part? 0 "type"
  members : Members (shape.partOr 5 "required" (.array [])) (shape'.partOr 5 "required" (.array []))
    (shape.partOr 1 "members" (.object [])) (shape'.partOr 1 "members" (.object []))
  member : Element (shape.partOr 2 "member" .null) (shape'.partOr 2 "member" .null)
  key : Element (shape.partOr 3 "key" .null) (shape'.partOr 3 "key" .null)
  value : Element (shape.partOr 4 "value" .null) (shape'.partOr 4 "value" .null)
  required : Required (declaredNames (shape.partOr 1 "members" (.object [])))
    (shape.partOr 5 "required" (.array [])) (shape'.partOr 5 "required" (.array []))
  traits : Traits (shape.partOr 6 "traits" (.object [])) (shape'.partOr 6 "traits" (.object []))
  input : shape.partOr 7 "input" .null = shape'.partOr 7 "input" .null
  output : shape.partOr 8 "output" .null = shape'.partOr 8 "output" .null
  operations : shape.partOr 9 "operations" (.array []) = shape'.partOr 9 "operations" (.array [])
  identifiers :
    shape.partOr 10 "identifiers" (.object []) = shape'.partOr 10 "identifiers" (.object [])

/-- Two spellings of the shapes of a model. -/
inductive Shapes : Json → Json → Prop
  | same (shapes : Json) : Shapes shapes shapes
  | objects {entries entries' : List (String × Json)}
      (each : List.Forall₂ (fun e e' => e.1 = e'.1 ∧ Shape e.2 e'.2) entries entries') :
      Shapes (.object entries) (.object entries')

/-- Two documents that spell the same model. No object in them repeats a key. -/
structure Model (document document' : Json) : Prop where
  regular : document.Regular fun _ => True
  regular' : document'.Regular fun _ => True
  record : document.isRecord 2 = document'.isRecord 2
  version : document.partOr 0 "smithy" .null = document'.partOr 0 "smithy" .null
  shapes : Shapes (document.partOr 1 "shapes" .null) (document'.partOr 1 "shapes" .null)

end Spelling

/-! ### Declarations that say the same -/

/-- A declared member is required by the list of its shape or by a trait of its own. -/
def Declaration.Needs (d : Declaration) (e : String × MemberDeclaration) : Prop :=
  e.1 ∈ d.required ∨ Trait.payloads "required" e.2.traits.entries ≠ []

/-- Declarations that differ in spelling only. -/
structure Declaration.Alike (d d' : Declaration) : Prop where
  kind : d.kind = d'.kind
  members : List.Forall₂ (fun e e' => e.1 = e'.1 ∧ e.2.target = e'.2.target ∧
      Spelling.TraitEntries e.2.traits.entries e'.2.traits.entries ∧ (d.Needs e ↔ d'.Needs e'))
    d.members.entries d'.members.entries
  stray : ∀ name, name ∉ d.members.keys → (name ∈ d.required ↔ name ∈ d'.required)
  element : d.member.map (·.target) = d'.member.map (·.target)
  key : d.key.map (·.target) = d'.key.map (·.target)
  value : d.value.map (·.target) = d'.value.map (·.target)
  traits : Spelling.TraitEntries d.traits.entries d'.traits.entries
  input : d.input = d'.input
  output : d.output = d'.output
  operations : d.operations = d'.operations
  identifiers : d.identifiers = d'.identifiers

namespace Spelling.TraitEntries

variable {e e' : String × Json} {entries entries' : List (String × Json)}

/-- A map of traits is a spelling of itself. -/
theorem refl (entries : List (String × Json)) : TraitEntries entries entries :=
  fun name _ => List.forall₂_same.2 fun payload _ => .same name payload

/-- A trait may be written under its other name, and its payload in another form. -/
theorem cons (key : Trait.localName? e.1 = Trait.localName? e'.1)
    (payload : ∀ name, Trait.localName? e.1 = some name → Payload name e.2 e'.2)
    (h : TraitEntries entries entries') : TraitEntries (e :: entries) (e' :: entries') := by
  intro name known
  rw [Trait.payloads_cons, Trait.payloads_cons, ← key]
  split
  · rename_i denotes
    exact .cons (payload name denotes) (h name known)
  · exact h name known

/-- A trait of which no payload is read may be left out. -/
theorem drop (unread : ∀ name ∈ Trait.payloadNames, Trait.localName? e.1 ≠ some name)
    (h : TraitEntries entries entries') : TraitEntries (e :: entries) entries' := by
  intro name known
  rw [Trait.payloads_cons, if_neg (unread name known)]
  exact h name known

/-- A trait of which no payload is read may be put in. -/
theorem add (unread : ∀ name ∈ Trait.payloadNames, Trait.localName? e'.1 ≠ some name)
    (h : TraitEntries entries entries') : TraitEntries entries (e' :: entries') := by
  intro name known
  rw [Trait.payloads_cons, if_neg (unread name known)]
  exact h name known

end Spelling.TraitEntries

/-- A declaration is like itself. -/
theorem Declaration.Alike.refl (d : Declaration) : d.Alike d where
  kind := rfl
  members := List.forall₂_same.2 fun _ _ => ⟨rfl, rfl, .refl _, Iff.rfl⟩
  stray _ _ := Iff.rfl
  element := rfl
  key := rfl
  value := rfl
  traits := .refl _
  input := rfl
  output := rfl
  operations := rfl
  identifiers := rfl

namespace Spelling

/-- Fields that do not repeat a key are the entries of a map. -/
theorem exists_entries_of_regular {number : Json.Number → Prop} {fields : List (String × Json)}
    (regular : (Json.object fields).Regular number) :
    ∃ m : OrderedMap Json, fields = m.entries := by
  cases regular with | object distinct
  exact ⟨⟨fields, distinct⟩, rfl⟩

/-- Maps of traits are read alike. -/
theorem Traits.reads {traits traits' : Json} (h : Traits traits traits')
    (regular : traits.Regular fun _ => True) (regular' : traits'.Regular fun _ => True) :
    Option.Rel (fun m m' => traits = .object m.entries ∧ traits' = .object m'.entries ∧
        TraitEntries m.entries m'.entries)
      (Reading.map some traits) (Reading.map some traits') := by
  cases h with
  | same =>
    cases read : Reading.map some traits with
    | none => exact .none
    | some m =>
      have written := (Decoder.Reading.map_some_eq_some_iff regular).1 read
      exact .some ⟨written, written, .refl _⟩
  | @objects entries entries' h =>
    obtain ⟨m, rfl⟩ := exists_entries_of_regular regular
    obtain ⟨m', rfl⟩ := exists_entries_of_regular regular'
    rw [(Decoder.Reading.map_some_eq_some_iff regular).2 rfl,
      (Decoder.Reading.map_some_eq_some_iff regular').2 rfl]
    exact .some ⟨rfl, rfl, h⟩

/-- A member is read alike, and its traits are those that are written. -/
theorem Member.reads {member member' : Json} (h : Member member member')
    (regular : member.Regular fun _ => True) (regular' : member'.Regular fun _ => True) :
    Option.Rel (fun m m' => m.target = m'.target ∧ traitsOf member = .object m.traits.entries ∧
        traitsOf member' = .object m'.traits.entries ∧
        TraitEntries m.traits.entries m'.traits.entries)
      (MemberDeclaration.decoder.reading member) (MemberDeclaration.decoder.reading member') := by
  rw [MemberDeclaration.reading_eq regular, MemberDeclaration.reading_eq regular', h.record]
  split
  · refine rel_bind (rel_of_eq (fun _ => rfl) (by rw [h.target])) fun target _ same => ?_
    have empty : (Json.object []).Regular fun _ => True := .object (by simp) (by simp)
    refine rel_bind (h.traits.reads (regular.partOr empty _ _) (regular'.partOr empty _ _))
      fun m m' related => ?_
    exact .some ⟨same, related⟩
  · exact .none

/-- The element, key or value of a shape is read alike. -/
theorem Element.reads {member member' : Json} (h : Element member member')
    (regular : member.Regular fun _ => True) (regular' : member'.Regular fun _ => True) :
    Option.Rel (fun o o' => o.map (·.target) = o'.map (·.target))
      (Reading.option MemberDeclaration.decoder.reading member)
      (Reading.option MemberDeclaration.decoder.reading member') := by
  cases h with
  | same =>
    refine rel_of_eq (fun o => ?_) rfl
    rfl
  | member record h =>
    have record' := h.record ▸ record
    have written (m : Json) (isRecord : m.isRecord 2 = true) :
        Reading.option MemberDeclaration.decoder.reading m =
          (MemberDeclaration.decoder.reading m).map some := by
      cases m with
      | null => cases isRecord
      | _ => rfl
    rw [written member record, written member' record']
    exact rel_map (h.reads regular regular') fun m m' related => congrArg some related.1

/-- A list of names is read from the array of their texts. -/
theorem reading_names_iff {required : Json} {names : List String} :
    Reading.list Json.asString? required = some names ↔
      required = .array (names.map .string) := by
  cases required with
  | array items =>
    have text (item : Json) (name : String) :
        item.asString? = some name ↔ item = .string name := by
      cases item <;> simp [Json.asString?]
    simp only [Reading.list, mapM_eq_some_iff, text, Json.array.injEq]
    rw [← List.forall₂_eq_eq_eq, List.forall₂_map_right_iff]
  | _ => simp [Reading.list]

/-- A list of names lists exactly its members. -/
theorem lists_iff {names : List String} {name : String} :
    Lists (.array (names.map .string)) name ↔ name ∈ names := by
  simp [Lists]

/-- A list is one of names exactly if each of its items is a string. -/
theorem exists_names_iff {items : List Json} :
    (∃ names : List String, items = names.map .string) ↔
      ∀ item ∈ items, ∃ name, item = .string name := by
  constructor
  · rintro ⟨names, rfl⟩ item mem
    obtain ⟨name, -, rfl⟩ := List.mem_map.1 mem
    exact ⟨name, rfl⟩
  · intro h
    induction items with
    | nil => exact ⟨[], rfl⟩
    | cons item items ih =>
      obtain ⟨name, rfl⟩ := h item List.mem_cons_self
      obtain ⟨names, rfl⟩ := ih fun i hi => h i (List.mem_cons_of_mem _ hi)
      exact ⟨name :: names, rfl⟩

/-- Lists of which only texts differ are lists of texts together. -/
theorem exists_names_of_others {declared : List String} {items items' : List Json}
    (others : ∀ item, (∀ name ∈ declared, item ≠ .string name) → (item ∈ items ↔ item ∈ items'))
    (h : ∃ names : List String, items = names.map .string) :
    ∃ names : List String, items' = names.map .string := by
  rw [exists_names_iff] at h ⊢
  intro item mem
  by_cases known : ∃ name ∈ declared, item = .string name
  · obtain ⟨name, -, rfl⟩ := known
    exact ⟨name, rfl⟩
  · refine h item ((others item fun name hname same => ?_).2 mem)
    exact known ⟨name, hname, same⟩

/-- The lists of required members are read alike, up to names of declared members. -/
theorem Required.reads {declared : List String} {required required' : Json}
    (h : Required declared required required') :
    Option.Rel (fun names names' => required = .array (names.map .string) ∧
        required' = .array (names'.map .string) ∧
        ∀ name, name ∉ declared → (name ∈ names ↔ name ∈ names'))
      (Reading.list Json.asString? required) (Reading.list Json.asString? required') := by
  cases h with
  | same =>
    cases read : Reading.list Json.asString? required with
    | none => exact .none
    | some names =>
      have written := reading_names_iff.1 read
      exact .some ⟨written, written, fun _ _ => Iff.rfl⟩
  | @arrays items items' others =>
    cases read : Reading.list Json.asString? (.array items) with
    | none =>
      cases read' : Reading.list Json.asString? (.array items') with
      | none => exact .none
      | some names' =>
        have written := Json.array.inj (reading_names_iff.1 read')
        -- If one of the arrays has names only, so has the other.
        obtain ⟨names, rfl⟩ := exists_names_of_others
          (fun item new => (others item new).symm) ⟨names', written⟩
        rw [reading_names_iff.2 rfl] at read
        cases read
    | some names =>
      have written := Json.array.inj (reading_names_iff.1 read)
      obtain ⟨names', rfl⟩ := exists_names_of_others others ⟨names, written⟩
      rw [reading_names_iff.2 rfl]
      refine .some ⟨by rw [written], rfl, fun name new => ?_⟩
      have same := others (.string name) fun declared known same =>
        new (Json.string.inj same ▸ known)
      simpa [written] using same

/-- A member has the trait `required` exactly if a key of its traits denotes it. -/
theorem hasRequired_iff {member : Json} {entries : List (String × Json)}
    (written : traitsOf member = .object entries) :
    HasRequired member ↔ Trait.payloads "required" entries ≠ [] := by
  simp [HasRequired, written]

/-- What two spellings of a member are read as, in the light of the lists of their shapes. -/
structure SameMember (required required' : Json) (name : String) (m m' : MemberDeclaration) :
    Prop where
  target : m.target = m'.target
  traits : TraitEntries m.traits.entries m'.traits.entries
  needed : Lists required name ∨ Trait.payloads "required" m.traits.entries ≠ [] ↔
    Lists required' name ∨ Trait.payloads "required" m'.traits.entries ≠ []

/-- The members of two spellings, read together with the requiredness that is written. -/
theorem Members.reads {required required' members members' : Json}
    (h : Members required required' members members') (regular : members.Regular fun _ => True)
    (regular' : members'.Regular fun _ => True) :
    Option.Rel (fun m m' => m.keys = declaredNames members ∧
        List.Forall₂ (fun x x' => x.1 = x'.1 ∧ SameMember required required' x.1 x.2 x'.2)
          m.entries m'.entries)
      (Reading.map MemberDeclaration.decoder.reading members)
      (Reading.map MemberDeclaration.decoder.reading members') := by
  cases h with
  | other h =>
    have unread : Reading.map MemberDeclaration.decoder.reading members = none := by
      cases members with
      | object entries => exact absurd rfl (h entries)
      | _ => rfl
    rw [unread]
    exact .none
  | @objects entries entries' each =>
    cases regular with | object distinct values
    cases regular' with | object distinct' values'
    -- The traits that a member is read with are the ones it is written with.
    have read : List.Forall₂ (fun e e' => e.1 = e'.1 ∧
        Option.Rel (SameMember required required' e.1) (MemberDeclaration.decoder.reading e.2)
          (MemberDeclaration.decoder.reading e'.2)) entries entries' := by
      refine forall₂_imp_of_mem (fun e he e' he' => ?_) each
      rintro ⟨key, member, needed⟩
      refine ⟨key, rel_imp (fun m m' => ?_) (member.reads (values e he) (values' e' he'))⟩
      rintro ⟨target, written, written', traits⟩
      rw [hasRequired_iff written, hasRequired_iff written', ← key] at needed
      exact ⟨target, traits, needed⟩
    refine rel_imp (fun m m' => ?_)
      (rel_answers (Decoder.Reading.rel_map distinct distinct' read))
    rintro ⟨answer, -, same⟩
    exact ⟨Decoder.Reading.keys_of_map distinct answer, same⟩

/-- Two spellings of a shape are decoded alike. -/
theorem Shape.alike {shape shape' : Json} (h : Shape shape shape')
    (regular : shape.Regular fun _ => True) (regular' : shape'.Regular fun _ => True) :
    Option.Rel Declaration.Alike (Declaration.decoder.reading shape)
      (Declaration.decoder.reading shape') := by
  have absent : Json.null.Regular fun _ => True := .null
  have object : (Json.object []).Regular fun _ => True := .object (by simp) (by simp)
  rw [Declaration.reading_eq regular, Declaration.reading_eq regular', h.record]
  split
  · -- The parts are read one after the other, in the order of the fields of a declaration.
    rw [h.kind, h.input, h.output, h.operations, h.identifiers]
    refine rel_bind (rel_of_eq (fun _ => rfl) rfl) fun kind _ sameKind => ?_
    refine rel_bind (h.members.reads (regular.partOr object _ _) (regular'.partOr object _ _))
      fun members members' sameMembers => ?_
    refine rel_bind (h.member.reads (regular.partOr absent _ _) (regular'.partOr absent _ _))
      fun member member' sameElement => ?_
    refine rel_bind (h.key.reads (regular.partOr absent _ _) (regular'.partOr absent _ _))
      fun key key' sameKey => ?_
    refine rel_bind (h.value.reads (regular.partOr absent _ _) (regular'.partOr absent _ _))
      fun value value' sameValue => ?_
    refine rel_bind h.required.reads fun required required' sameRequired => ?_
    refine rel_bind (h.traits.reads (regular.partOr object _ _) (regular'.partOr object _ _))
      fun traits traits' sameTraits => ?_
    refine rel_bind (rel_of_eq (fun _ => rfl) rfl) fun input _ sameInput => ?_
    refine rel_bind (rel_of_eq (fun _ => rfl) rfl) fun output _ sameOutput => ?_
    refine rel_bind (rel_of_eq (fun _ => rfl) rfl) fun operations _ sameOperations => ?_
    refine rel_bind (rel_of_eq (fun _ => rfl) rfl) fun identifiers _ sameIdentifiers => ?_
    obtain ⟨keys, entries⟩ := sameMembers
    obtain ⟨written, written', stray⟩ := sameRequired
    rw [written, written'] at entries
    refine .some
      { kind := sameKind, members := ?_, stray := fun name new => stray name (keys ▸ new)
        element := sameElement, key := sameKey, value := sameValue, traits := sameTraits.2.2
        input := sameInput, output := sameOutput, operations := sameOperations
        identifiers := sameIdentifiers }
    -- Which members are needed is said by the list and by the traits of the member together.
    refine entries.imp fun x x' ⟨key, same⟩ => ⟨key, same.target, same.traits, ?_⟩
    have needed := same.needed
    rw [lists_iff, lists_iff] at needed
    rw [Declaration.Needs, Declaration.Needs, ← key]
    exact needed
  · exact .none

/-- Declarations under the same ids, in the same order, that say the same. -/
def SameDeclarations (m m' : OrderedMap Declaration) : Prop :=
  List.Forall₂ (fun e e' => e.1 = e'.1 ∧ e.2.Alike e'.2) m.entries m'.entries

/-- Two spellings of the shapes of a model are read together, and as the same declarations. -/
theorem Shapes.reads {shapes shapes' : Json} (h : Shapes shapes shapes')
    (regular : shapes.Regular fun _ => True) (regular' : shapes'.Regular fun _ => True) :
    Option.Rel (Option.Rel SameDeclarations)
      (Reading.option (Reading.map Declaration.decoder.reading) shapes)
      (Reading.option (Reading.map Declaration.decoder.reading) shapes') := by
  cases h with
  | same =>
    refine rel_of_eq (fun o => rel_of_eq (fun m => ?_) rfl) rfl
    exact List.forall₂_same.2 fun e _ => ⟨rfl, .refl e.2⟩
  | @objects entries entries' each =>
    cases regular with | object distinct values
    cases regular' with | object distinct' values'
    refine rel_map (R := SameDeclarations) ?_ fun _ _ same => .some same
    refine Decoder.Reading.rel_map (R := fun _ => Declaration.Alike) distinct distinct' ?_
    refine forall₂_imp_of_mem (fun e he e' he' => ?_) each
    rintro ⟨key, shape⟩
    exact ⟨key, shape.alike (values e he) (values' e' he')⟩

/-- Two spellings of a model are decoded alike. -/
theorem Model.alike {document document' : Json} (h : Model document document') :
    Option.Rel (fun d d' => Option.Rel SameDeclarations d.shapes d'.shapes)
      (Document.decoder.reading document) (Document.decoder.reading document') := by
  have absent : Json.null.Regular fun _ => True := .null
  rw [Document.reading_eq h.regular, Document.reading_eq h.regular', h.record]
  split
  · rw [h.version]
    refine rel_bind (rel_of_eq (fun _ => rfl) rfl) fun version _ sameVersion => ?_
    exact rel_bind (h.shapes.reads (h.regular.partOr absent _ _) (h.regular'.partOr absent _ _))
      fun shapes shapes' same => .some same
  · exact .none

end Spelling

end ShapeSchema
