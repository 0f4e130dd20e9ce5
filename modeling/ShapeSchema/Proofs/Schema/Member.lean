import ShapeSchema.Proofs.JsonSchema.Whole
import ShapeSchema.Proofs.Model.Shape
import ShapeSchema.Proofs.Schema.Length
import ShapeSchema.Proofs.Schema.Location

/-!
# `ShapeSchema.Proofs.Schema.Member`: the members that an object has to have

Whether a member is required is decided when its shape is resolved, and read three times after that:
from the node, from the schemas that are written for the node, and in the check of an object that
lacks the member. `CompiledModel.Demands` and `CompiledModel.Spares` say what the three come to for
a member that is required and for one that is not, and each follows from the flag in the node alone
(`demands_of_required`, `spares_of_optional`).

`requiredness_kept` goes all the way from the declaration of a record or a resource. Identifiers are
demanded, but for those whose name is declared as a member too, and not required as that
(`Declaration.Loosens`). `forecastId_spared` has such an identifier.
-/

set_option autoImplicit false

namespace ShapeSchema

open Violation (here)

/-- A schema lists the name under `required`. -/
def Json.Requires (schema : Json) (name : String) : Prop :=
  ∃ names, schema.field? "required" = some (.array names) ∧ .string name ∈ names

/-- The names that a schema lists under `required`. -/
def Json.requiredNames (schema : Json) : List String :=
  match schema.field? "required" with
  | some (.array names) => names.filterMap Json.asString?
  | _ => []

/-- A schema requires the names that it lists. -/
theorem Json.requires_iff_mem {schema : Json} {name : String} :
    schema.Requires name ↔ name ∈ schema.requiredNames := by
  rw [Json.Requires, Json.requiredNames]
  split
  · next names listed =>
    rw [listed, List.mem_filterMap]
    constructor
    · rintro ⟨names', same, mem⟩
      cases same
      exact ⟨.string name, mem, rfl⟩
    · rintro ⟨item, mem, text⟩
      -- Only texts count among the names that are listed.
      cases item with
      | string s =>
        cases text
        exact ⟨names, rfl, mem⟩
      | _ => cases text
  · next other =>
    constructor
    · rintro ⟨names, listed, -⟩
      exact absurd listed (other names)
    · intro mem
      cases mem

instance (schema : Json) (name : String) : Decidable (schema.Requires name) :=
  decidable_of_iff _ Json.requires_iff_mem.symm

/-- An object lacks a member that it does not have, and one that is null in it. -/
def Lacks (fields : List (String × Json)) (name : String) : Prop :=
  fields.lookup name = none ∨ fields.lookup name = some .null

namespace CompiledModel

/-- The member has to be there: the node requires it, so does the schema of the node, by itself and
among the definitions of the whole document, and an object that lacks it always has the violation.
-/
structure Demands (m : CompiledModel) (ref : Ref) (name : String) : Prop where
  member : ∃ members member, m.node ref = .object members ∧ members.get? name = some member ∧
    member.required = true
  standalone : (m.standalone ref).Requires name
  whole : ∀ id, m.get? id = some ref → ∃ schema,
    Json.Pointer.resolve? ["$defs", id] m.wholeSchema = some schema ∧ schema.Requires name
  violated : ∀ fields, Lacks fields name →
    ⟨[name], .missingMember⟩ ∈ m.violations ref (.object fields)

/-- The member may be left out: the node has it and does not require it, no schema of the node lists
it, and in an object that lacks it nothing is found wrong in its place. -/
structure Spares (m : CompiledModel) (ref : Ref) (name : String) : Prop where
  member : ∃ members member, m.node ref = .object members ∧ members.get? name = some member ∧
    member.required = false
  standalone : ¬ (m.standalone ref).Requires name
  whole : ∀ id, m.get? id = some ref → ∃ schema,
    Json.Pointer.resolve? ["$defs", id] m.wholeSchema = some schema ∧ ¬ schema.Requires name
  passed : ∀ fields, Lacks fields name → ∀ v ∈ m.violations ref (.object fields),
    v.path.head? ≠ some name

section Node

variable {m : CompiledModel} {ref : Ref} {members : OrderedMap MemberRef} {name : String}
  {member : MemberRef}

/-! ### In the schemas -/

/-- The names under `required` are those of the required members. -/
theorem requires_iff (node : m.node ref = .object members)
    (found : members.get? name = some member) :
    (Json.object (m.schemaFields ref)).Requires name ↔ member.required = true := by
  have held : (name, member) ∈ members.entries := OrderedMap.get?_eq_some_iff.1 found
  have listed : .string name ∈ (members.entries.filterMap fun e =>
      if e.2.required then some (Json.string e.1) else none) ↔ member.required = true := by
    rw [List.mem_filterMap]
    constructor
    · rintro ⟨⟨name', member'⟩, mem, entry⟩
      cases required : member'.required with
      | false => simp [required] at entry
      | true =>
        -- Names are distinct, so this is the member itself.
        simp only [required, if_true, Option.some.injEq, Json.string.injEq] at entry
        subst entry
        cases found.symm.trans (OrderedMap.get?_eq_some_iff.2 mem)
        exact required
    · intro required
      exact ⟨(name, member), held, by simp [required]⟩
  rw [← listed, schemaFields, node]
  generalize names : (members.entries.filterMap fun e =>
    if e.2.required then some (Json.string e.1) else none) = required
  have keyword :
      (Json.object ((Node.object members).schemaFields m.childSchema)).field? "required" =
        if required.isEmpty then none else some (.array required) := by
    rw [← names]
    show List.lookup "required" ((Node.object members).schemaFields m.childSchema) = _
    rw [Node.schemaFields, Entries.lookup_cons_ne _ (by simp), Entries.lookup_cons_ne _ (by simp)]
    split <;> rfl
  rw [Json.Requires, keyword]
  -- A schema without required members has no such keyword, and lists nothing.
  cases required with
  | nil => simp
  | cons first rest => simp

/-- The document of a node requires what the schema of the node does. -/
theorem requires_standalone_iff (ref : Ref) :
    (m.standalone ref).Requires name ↔ (Json.object (m.schemaFields ref)).Requires name := by
  have other : "required" ≠ "$defs" := by decide
  rw [Json.Requires, field?_standalone other]
  rfl

/-- The whole document has the same schema of the node, under each id of it. -/
theorem resolve?_wholeSchema_of_get? {id : String} (found : m.get? id = some ref) :
    Json.Pointer.resolve? ["$defs", id] m.wholeSchema = some (.object (m.schemaFields ref)) := by
  rw [resolve?_wholeSchema, found, Option.map_some]

/-! ### In the check of an object -/

/-- Where a required member is lacking, its violation is among those of the members. -/
theorem missing_mem_checkMembers {fields : List (String × Json)} (lacking : Lacks fields name)
    {entries : List (String × MemberRef)} (held : (name, member) ∈ entries)
    (required : member.required = true) :
    ⟨[name], .missingMember⟩ ∈ checkMembers (fieldChecks m fields) entries := by
  induction entries with
  | nil => cases held
  | cons e entries ih =>
    rw [checkMembers]
    rcases List.mem_cons.1 held with rfl | later
    · refine List.mem_append_left _ (List.mem_map.2 ⟨here .missingMember, ?_, rfl⟩)
      rw [lookup_fieldChecks]
      rcases lacking with absent | null
      · simp [absent, required]
      · simp [null, required, Json.isNull]
    · exact List.mem_append_right _ (ih later)

/-- Where a member is lacking that is not required, nothing is found under its name. -/
theorem head?_ne_of_mem_checkMembers {fields : List (String × Json)} (lacking : Lacks fields name)
    (found : members.get? name = some member) (optional : member.required = false) {v : Violation}
    (mem : v ∈ checkMembers (fieldChecks m fields) members.entries) :
    v.path.head? ≠ some name := by
  obtain ⟨other, member', held, cause⟩ := mem_checkMembers mem
  have found' : members.get? other = some member' := OrderedMap.get?_eq_some_iff.2 held
  rcases cause with ⟨value, present, set, inner, -, rfl⟩ | ⟨-, required, rfl⟩
  · -- A value was checked under the name, so the object has the member.
    rintro same
    obtain rfl : other = name := Option.some.inj same
    rcases lacking with absent | null
    · rw [present] at absent
      cases absent
    · rw [present] at null
      cases null
      cases set
  · rintro same
    obtain rfl : other = name := Option.some.inj same
    cases found.symm.trans found'
    rw [required] at optional
    cases optional

/-! ### From the flag in the node -/

/-- A required member is demanded by the node, by its schemas and by the check. -/
theorem demands_of_required (node : m.node ref = .object members)
    (found : members.get? name = some member) (required : member.required = true) :
    m.Demands ref name where
  member := ⟨members, member, node, found, required⟩
  standalone := (requires_standalone_iff ref).2 ((requires_iff node found).2 required)
  whole _ indexed :=
    ⟨_, resolve?_wholeSchema_of_get? indexed, (requires_iff node found).2 required⟩
  violated fields lacking := by
    rw [violations, Json.violations]
    simp only [node]
    exact missing_mem_checkMembers lacking (OrderedMap.get?_eq_some_iff.1 found) required

/-- A member that is not required may be left out everywhere. -/
theorem spares_of_optional (node : m.node ref = .object members)
    (found : members.get? name = some member) (optional : member.required = false) :
    m.Spares ref name := by
  have free : ¬ (Json.object (m.schemaFields ref)).Requires name := by
    rw [requires_iff node found, optional]
    simp
  refine ⟨⟨members, member, node, found, optional⟩, ?_, ?_, ?_⟩
  · exact fun listed => free ((requires_standalone_iff ref).1 listed)
  · exact fun _ indexed => ⟨_, resolve?_wholeSchema_of_get? indexed, free⟩
  · intro fields lacking v mem
    rw [violations, Json.violations] at mem
    simp only [node] at mem
    exact head?_ne_of_mem_checkMembers lacking found optional mem

end Node

end CompiledModel

/-! ### From the declaration -/

/-- What a declaration says about its members is kept by a node: what it asks for is demanded, but
for identifiers that it loosens, and nothing else is. -/
structure Declaration.Kept (d : Declaration) (m : CompiledModel) (ref : Ref) : Prop where
  demanded : ∀ name, d.Asks name → ¬ d.Loosens name → m.Demands ref name
  loosened : ∀ name, d.Loosens name → m.Spares ref name
  optional : ∀ name ∈ d.members.keys, ¬ d.Asks name → m.Spares ref name

/-- The node of a record or a resource has the members of its shape, required or not as they are. -/
theorem Shape.Image.members {named : String → Option Ref} {loose : Ref → Prop} {s : Shape}
    {node : Node} (image : s.Image named loose node)
    (kind : s.kind = .record ∨ s.kind = .resource) :
    ∃ members, node = .object members ∧
      ∀ name member, s.members.get? name = some member →
        ∃ ref, members.get? name = some ref ∧ ref.required = member.required := by
  -- Both kinds have the same line in the table.
  have table : ∃ members, node = .object members ∧
      List.Forall₂ (fun declared member => member.1 = declared.1 ∧
          named declared.2.target = some member.2.node ∧ member.2.required = declared.2.required)
        s.members.entries members.entries := by
    unfold Shape.Image at image
    rcases kind with kind | kind
    · rw [kind] at image
      exact image
    · rw [kind] at image
      exact image
  obtain ⟨members, rfl, each⟩ := table
  refine ⟨members, rfl, fun name member found => ?_⟩
  obtain ⟨⟨_, ref⟩, held, rfl, -, required⟩ :=
    exists_of_forall₂ each (OrderedMap.get?_eq_some_iff.1 found)
  exact ⟨ref, OrderedMap.get?_eq_some_iff.2 held, required⟩

/-- A node that was made from a shape keeps what the declaration of the shape says. -/
theorem Declaration.kept_of_image {id : String} {d : Declaration} {s : Shape}
    (resolves : Shape.resolve id d = .ok s) (kind : s.kind = .record ∨ s.kind = .resource)
    {m : CompiledModel} {ref : Ref} {named : String → Option Ref} {loose : Ref → Prop}
    (image : s.Image named loose (m.node ref)) : d.Kept m ref := by
  obtain ⟨members, node, each⟩ := image.members kind
  have merged := Shape.merges_of_resolve resolves
  -- All three parts are about a member of the shape, and the flag that it was resolved with.
  have flag (name : String) (known : name ∈ s.members.keys) :
      ∃ ref', members.get? name = some ref' ∧
        (ref'.required = true ↔ d.Asks name ∧ ¬ d.Loosens name) := by
    cases found : s.members.get? name with
    | none => exact absurd known (OrderedMap.get?_eq_none_iff.1 found)
    | some member =>
      obtain ⟨ref', found', same⟩ := each name member found
      exact ⟨ref', found', same ▸ merged.required name member found⟩
  have spared (name : String) (known : name ∈ s.members.keys)
      (free : ¬ (d.Asks name ∧ ¬ d.Loosens name)) : m.Spares ref name := by
    obtain ⟨ref', found, required⟩ := flag name known
    exact CompiledModel.spares_of_optional node found (by simpa using mt required.1 free)
  refine ⟨fun name asked firm => ?_, fun name loose => ?_, fun name declared unasked => ?_⟩
  · obtain ⟨ref', found, required⟩ := flag name (Shape.mem_keys_of_asks resolves asked)
    exact CompiledModel.demands_of_required node found (required.2 ⟨asked, firm⟩)
  · exact spared name (Shape.mem_keys_of_asks resolves (.inl loose.1)) fun both => both.2 loose
  · have other : name ∉ d.identifiers.keys := fun identifier => unasked (.inl identifier)
    have known : name ∈ s.members.keys := by
      rw [merged.names]
      exact List.mem_append_right _ (List.mem_filter.2 ⟨declared, by simpa using other⟩)
    exact spared name known fun both => unasked both.1

/-- What becomes of the members of a declaration that resolves. In the shape they are merged: the
identifiers, then the declared members with other names, each required exactly if its name asks for
it and is not loosened, and the list of required names has declared members only.

Nothing is lost after that. Wherever the shape of a record or a resource is compiled, its node keeps
what the declaration says, in the sessions of a document and in its model. An identifier always
asks, so it is demanded unless it is loosened. -/
theorem requiredness_kept {id : String} {d : Declaration} {s : Shape}
    (resolves : Shape.resolve id d = .ok s) :
    d.Merges s.members ∧
      ∀ (document : Document) (declarations : OrderedMap Declaration) (r : Registry),
        document.shapes = some declarations → declarations.get? id = some d →
        Registry.ofDocument document = .ok r → s.kind = .record ∨ s.kind = .resource →
          (∀ ids ref, (Compiler.session r ids).finish.get? id = some ref →
            d.Kept (Compiler.session r ids).finish ref) ∧
          ∀ m, CompiledModel.ofRegistry r = .ok m → ∃ ref, m.get? id = some ref ∧ d.Kept m ref := by
  refine ⟨Shape.merges_of_resolve resolves, ?_⟩
  intro document declarations r shapes declared made kind
  -- The registry has the shape under the id, and a session compiles that shape.
  have held : r.get? id = some s := by
    obtain ⟨⟨_, s'⟩, mem, rfl, answer⟩ :=
      exists_of_forall₂ (Registry.entries_ofDocument made shapes)
      (OrderedMap.get?_eq_some_iff.1 declared)
    cases resolves.symm.trans answer
    exact OrderedMap.get?_eq_some_iff.2 mem
  have sessions (ids : List String) (ref : Ref)
      (found : (Compiler.session r ids).finish.get? id = some ref) :
      d.Kept (Compiler.session r ids).finish ref := by
    obtain ⟨s', node, held', placed, image⟩ := (session_mirrors r ids).2.2 id ref found
    have grown := (Compiler.session_registry r ids).get? held
    cases held'.symm.trans grown
    rw [← CompiledModel.node_of_getElem? placed] at image
    exact Declaration.kept_of_image resolves kind image
  refine ⟨sessions, fun m compiled => ?_⟩
  -- The model is the session with all declared ids, and this is one of them.
  have declaredId := Registry.mem_declaredIds_of_get? (Registry.isLoaded_ofDocument made) held
  obtain ⟨ref, found⟩ :=
    CompiledModel.exists_get?_of_mem_ids (CompiledModel.mem_ids_of_declared compiled declaredId)
  refine ⟨ref, found, ?_⟩
  rw [Compiler.eq_finish_of_ofRegistry compiled] at found ⊢
  exact sessions r.declaredIds ref found

/-! ### An identifier that is declared again -/

/-- A resource of which one identifier is declared as a member too. -/
def forecast : Declaration where
  kind := "resource"
  identifiers := .ofList [("city", "smithy.api#String"), ("forecastId", "smithy.api#String")]
  members := .ofList [("forecastId", { target := "smithy.api#String", traits := .empty }),
    ("wind", { target := "smithy.api#Float", traits := .empty })]
  required := ["wind"]
  traits := .empty

/-- A document with the one resource. -/
def forecastDocument : Document where
  shapes := some (.ofList [("ns#Forecast", forecast)])

/-- The identifier that is not declared again is demanded, and so is the member that is listed. -/
theorem forecast_kept : ∃ s r m ref, Shape.resolve "ns#Forecast" forecast = .ok s ∧
    s.members.keys = ["city", "forecastId", "wind"] ∧
    Registry.ofDocument forecastDocument = .ok r ∧ CompiledModel.ofRegistry r = .ok m ∧
    m.get? "ns#Forecast" = some ref ∧
    m.Demands ref "city" ∧ m.Demands ref "wind" ∧ m.Spares ref "forecastId" := by
  have resolves : (Shape.resolve "ns#Forecast" forecast).toOption.map (·.kind) =
      some .resource := by
    decide +kernel
  have compiles : ((Registry.ofDocument forecastDocument).bind CompiledModel.ofRegistry).isOk =
      true := by
    decide +kernel
  obtain ⟨s, resolved, kind⟩ := Option.map_eq_some_iff.1 resolves
  rw [toOption_eq_some_iff] at resolved
  obtain ⟨m, compiled⟩ := isOk_iff_exists.1 compiles
  obtain ⟨r, made, model⟩ := except_bind_ok compiled
  obtain ⟨merged, compiles⟩ := requiredness_kept resolved
  obtain ⟨-, ofModel⟩ := compiles forecastDocument _ r rfl rfl made (.inr kind)
  obtain ⟨ref, found, kept⟩ := ofModel m model
  -- The city is an identifier only, and the wind a member only.
  have city : ¬ forecast.Loosens "city" := by
    rintro ⟨-, declared, found, -⟩
    cases found
  have wind : ¬ forecast.Loosens "wind" := by
    rintro ⟨identifier, -⟩
    revert identifier
    decide
  have forecastId : forecast.Loosens "forecastId" := by
    refine ⟨by decide, _, rfl, ?_⟩
    rintro (listed | carries)
    · revert listed
      decide
    · exact carries rfl
  refine ⟨s, r, m, ref, resolved, merged.names.trans (by decide), made, model, found, ?_, ?_, ?_⟩
  · exact kept.demanded "city" (.inl (by decide)) city
  · exact kept.demanded "wind" (.inr (.inl (by decide))) wind
  · exact kept.loosened "forecastId" forecastId

/-- A forecast without the identifier that is declared again. -/
def unnumbered : Json := .object [("city", .string "Oslo"), ("wind", .number (.int ⟨3, by decide⟩))]

/-- The identifier that is declared again is no longer required, and not listed, and nothing is
found wrong with a forecast that lacks it. -/
theorem forecastId_spared : "forecastId" ∈ forecast.identifiers.keys ∧
    (∃ s member, Shape.resolve "ns#Forecast" forecast = .ok s ∧
      s.members.get? "forecastId" = some member ∧ member.required = false) ∧
    ∃ r m ref, Registry.ofDocument forecastDocument = .ok r ∧ CompiledModel.ofRegistry r = .ok m ∧
      m.get? "ns#Forecast" = some ref ∧ ¬ (m.standalone ref).Requires "forecastId" ∧
      m.violations ref unnumbered = [] := by
  -- Evaluation says that the member is optional, and that nothing asks for it.
  have flags : (Shape.resolve "ns#Forecast" forecast).toOption.bind (fun s =>
      (s.members.get? "forecastId").map (·.required)) = some false := by
    decide +kernel
  have answers : ((Registry.ofDocument forecastDocument).bind
      CompiledModel.ofRegistry).toOption.bind
      (fun m => (m.get? "ns#Forecast").map fun ref =>
        (decide ((m.standalone ref).Requires "forecastId"),
          (m.violations ref unnumbered).isEmpty)) = some (false, true) := by
    decide +kernel
  refine ⟨by decide, ?_, ?_⟩
  · obtain ⟨s, resolved, flag⟩ := Option.bind_eq_some_iff.1 flags
    obtain ⟨member, found, required⟩ := Option.map_eq_some_iff.1 flag
    exact ⟨s, member, toOption_eq_some_iff.1 resolved, found, required⟩
  · obtain ⟨m, compiled, answer⟩ := Option.bind_eq_some_iff.1 answers
    obtain ⟨r, made, model⟩ := except_bind_ok (toOption_eq_some_iff.1 compiled)
    obtain ⟨ref, found, both⟩ := Option.map_eq_some_iff.1 answer
    obtain ⟨listed, clean⟩ := Prod.mk.inj both
    exact ⟨r, m, ref, made, model, found, of_decide_eq_false listed, List.isEmpty_iff.1 clean⟩

end ShapeSchema
