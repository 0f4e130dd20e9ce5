import ShapeSchema.Proofs.Schema.Request

/-!
# `ShapeSchema.Proofs.Compiler.Diagnostics`: one report for each dropped pattern

A string or a document without enum trait has its first pattern trait compiled. If the engine
accepts the pattern it is in the node of the shape. If not, the node has no pattern, and a
diagnostic says so.

What is to be reported of an id (`Registry.dropped?`) is read off the registry, so it does not
matter by which calls and through which references a compiler came to the shape. `Reported` says
that the diagnostics are these reports for the index, in its order. A compilation keeps it
(`compileWithin_reported`): a shape with a pattern has no targets, so between taking its place and
reporting its pattern nothing else is indexed. A compilation that fails takes index and diagnostics
back to where it began. The reports are therefore complete after each call of a session, the failed
ones included (`session_reported`).

The engine counts only as far as it accepts a source or rejects it with a message.
-/

set_option autoImplicit false

namespace ShapeSchema

/-! ### What is to be reported -/

/-- The source and the message, if the engine rejects a pattern. -/
def RejectedPattern.of? (source : String) : Option RejectedPattern :=
  match Regex.compile source with
  | .ok _ => none
  | .error e => some ⟨source, e.render source⟩

namespace Shape

/-- The pattern that a shape asks for: the first one of a string or document, unless there is an
enum trait. -/
def pattern? (s : Shape) : Option String :=
  match s.kind with
  | .string | .document => if (Trait.enum? s.traits).isSome then none else Trait.pattern? s.traits
  | _ => none

/-- The pattern of a shape that the engine rejects. -/
def rejected? (s : Shape) : Option RejectedPattern := s.pattern?.bind RejectedPattern.of?

/-- Only a text has a pattern, and only if it is not an enumeration. -/
theorem pattern?_eq_some_iff {s : Shape} {source : String} : s.pattern? = some source ↔
    (s.kind = .string ∨ s.kind = .document) ∧ Trait.enum? s.traits = none ∧
      Trait.pattern? s.traits = some source := by
  unfold pattern?
  cases s.kind with
  | string | document => cases Trait.enum? s.traits <;> simp
  | _ => simp

/-- A shape that asks for a pattern leads to nothing. -/
theorem slots_of_pattern {s : Shape} {source : String} (asks : s.pattern? = some source) :
    s.slots = [] :=
  slots_of_text (pattern?_eq_some_iff.1 asks).1

end Shape

/-- What is to be reported of an id. -/
def Registry.dropped? (r : Registry) (id : String) : Option Diagnostic :=
  ((r.shape? id).bind Shape.rejected?).map (RejectedPattern.report id)

/-- A pattern is rejected exactly if it does not compile, and then the error is rendered with its
source. -/
theorem RejectedPattern.of?_eq_some_iff {source : String} {p : RejectedPattern} :
    of? source = some p ↔
      ∃ e, Regex.compile source = .error e ∧ p = ⟨source, e.render source⟩ := by
  unfold of?
  cases Regex.compile source with
  | ok pattern => simp
  | error e => simp [eq_comm]

/-- Something is to be reported exactly of an id that has a string or document, without enum trait
and with a first pattern trait that the engine rejects. -/
theorem Registry.dropped?_eq_some_iff {r : Registry} {id : String} {d : Diagnostic} :
    r.dropped? id = some d ↔ ∃ s source e, r.shape? id = some s ∧ s.pattern? = some source ∧
      Regex.compile source = .error e ∧
        d = ⟨id, s!"pattern `{source}` dropped: {e.render source}"⟩ := by
  simp only [dropped?, Option.map_eq_some_iff, Option.bind_eq_some_iff, Shape.rejected?,
    RejectedPattern.of?_eq_some_iff]
  constructor
  · rintro ⟨_, ⟨s, resolves, source, asks, e, failed, rfl⟩, rfl⟩
    exact ⟨s, source, e, resolves, asks, failed, rfl⟩
  · rintro ⟨s, source, e, resolves, asks, failed, rfl⟩
    exact ⟨_, ⟨s, resolves, source, asks, e, failed, rfl⟩, rfl⟩

/-- A diagnostic names the shape that it is about. -/
theorem Registry.shape_of_dropped? {r : Registry} {id : String} {d : Diagnostic}
    (dropped : r.dropped? id = some d) : d.shape = id := by
  obtain ⟨_, _, _, -, -, -, rfl⟩ := dropped?_eq_some_iff.1 dropped
  rfl

/-! ### The node of a shape and its diagnostics -/

/-- The constraint of a string has the pattern or its rejection. -/
theorem stringConstraint_ok {id : String} {traits : List Trait} {c : StringConstraint}
    (made : stringConstraint id traits = .ok c) :
    c.pattern = (Trait.pattern? traits).bind (fun source => (Regex.compile source).toOption) ∧
      c.rejected = (Trait.pattern? traits).bind RejectedPattern.of? := by
  obtain ⟨length, -, made⟩ := except_bind_ok made
  cases first : Trait.pattern? traits with
  | none =>
    rw [first] at made
    cases made
    exact ⟨rfl, rfl⟩
  | some source =>
    rw [first] at made
    rw [Option.bind_some, Option.bind_some, RejectedPattern.of?]
    dsimp only at made
    cases answer : Regex.compile source with
    | ok pattern =>
      rw [answer] at made
      cases made
      exact ⟨rfl, rfl⟩
    | error e =>
      rw [answer] at made
      cases made
      exact ⟨rfl, rfl⟩

namespace Shape

variable {s : Shape} {refs : List Ref} {node : Node} {diagnostics : List Diagnostic}

/-- The node of a shape that asks for a pattern has that pattern if the engine accepts it, and none
if not. -/
theorem node_of_pattern {source : String} (asks : s.pattern? = some source)
    (made : s.node refs = .ok (node, diagnostics)) :
    ∃ length, node = .string (Regex.compile source).toOption length none := by
  obtain ⟨kind, unlisted, first⟩ := pattern?_eq_some_iff.1 asks
  rw [node_of_text kind] at made
  have image := image_of_stringNode made
  rw [unlisted] at image
  obtain ⟨c, constraint, rfl⟩ := image
  rw [(stringConstraint_ok constraint).1, first, Option.bind_some]
  exact ⟨c.length, rfl⟩

/-- The node of a text reports its pattern if that is rejected, and nothing else. -/
theorem diagnostics_of_stringNode (kind : s.kind = .string ∨ s.kind = .document)
    (made : s.stringNode = .ok (node, diagnostics)) :
    diagnostics = (s.rejected?.map (RejectedPattern.report s.id)).toList := by
  unfold stringNode at made
  cases values : Trait.enum? s.traits with
  | some _ =>
    -- The enum trait puts the pattern aside.
    have unasked : s.pattern? = none := by
      rcases kind with kind | kind <;> simp [pattern?, kind, values]
    rw [values] at made
    cases made
    rw [rejected?, unasked]
    rfl
  | none =>
    have asked : s.pattern? = Trait.pattern? s.traits := by
      rcases kind with kind | kind <;> simp [pattern?, kind, values]
    rw [values] at made
    obtain ⟨c, constraint, last⟩ := except_bind_ok made
    cases last
    rw [rejected?, asked, ← (stringConstraint_ok constraint).2]
    cases c.rejected <;> rfl

/-- A shape is given a node together with what is to be reported of it. -/
theorem diagnostics_of_node (made : s.node refs = .ok (node, diagnostics)) :
    diagnostics = (s.rejected?.map (RejectedPattern.report s.id)).toList := by
  by_cases text : s.kind = .string ∨ s.kind = .document
  · rw [node_of_text text] at made
    exact diagnostics_of_stringNode text made
  · -- Nothing is to be reported of the other kinds.
    have unasked : s.pattern? = none := by
      cases asked : s.pattern? with
      | none => rfl
      | some source => exact absurd (pattern?_eq_some_iff.1 asked).1 text
    rw [rejected?, unasked, Option.bind_none, Option.map_none, Option.toList_none]
    cases gives_of_node made with
    | text kind => exact absurd kind text
    | _ => rfl

end Shape

/-! ### Compilations -/

namespace Registry

variable {r : Registry}

/-- A shape that an id resolves to has that id. -/
theorem Keyed.id_of_shape? (keyed : r.Keyed) {id : String} {s : Shape}
    (resolved : r.shape? id = some s) : s.id = id := by
  cases held : r.get? id with
  | some shape =>
    rw [shape?, held, Option.some_or] at resolved
    cases resolved
    exact keyed _ (OrderedMap.get?_eq_some_iff.1 held)
  | none =>
    rw [shape?, held, Option.none_or] at resolved
    obtain ⟨kind, -, rfl⟩ := Option.map_eq_some_iff.1 resolved
    rfl

end Registry

namespace Compiler

/-- The diagnostics are what is to be reported of the indexed ids, in the order of the index. -/
structure Reported (r : Registry) (c : Compiler) : Prop where
  grown : r.Grows c.registry
  diagnostics : c.diagnostics = c.index.keys.filterMap r.dropped?

namespace Reported

variable {r : Registry} {c : Compiler}

/-- Nothing is indexed and nothing is reported before any call. -/
theorem start (r : Registry) : Reported r (start r) := ⟨.refl r, rfl⟩

/-- An id of which nothing is to be reported can be indexed before its targets are compiled. -/
theorem enter (h : Reported r c) {registry : Registry} {id : String} (grown : r.Grows registry)
    (unindexed : c.index.get? id = none) (quiet : r.dropped? id = none) :
    Reported r (c.enter registry id) where
  grown := grown
  diagnostics := by
    have absent : id ∉ c.index.keys := Entries.lookup_eq_none_iff.1 unindexed
    rw [enter_diagnostics, enter_index, OrderedMap.keys_insert, if_neg absent, h.diagnostics]
    simp [quiet]

end Reported

/-- What a visit owes when it answers with a reference: the reports. -/
def VisitReports (r : Registry) (visit : Compiler → String → Except Stop Ref × Compiler) : Prop :=
  ∀ {c c' : Compiler} {id : String} {ref : Ref}, Reported r c → visit c id = (.ok ref, c') →
    Reported r c'

/-- Slots are filled from left to right, and what their visits report is in the order of the index.
-/
theorem fillSlots_reported {r : Registry} {visit : Compiler → String → Except Stop Ref × Compiler}
    (visits : VisitReports r visit) {slots : List Slot} :
    ∀ {c c' : Compiler} {refs : List Ref}, Reported r c → fillSlots visit c slots = (.ok refs, c') →
      Reported r c' := by
  induction slots with
  | nil =>
    intro c c' refs h filled
    cases filled
    exact h
  | cons slot slots ih =>
    intro c c' refs h filled
    obtain ⟨ref, between, rest, head, tail, -⟩ := fillSlots_cons_ok filled
    refine ih ?_ tail
    cases slot with
    | shape id => exact visits h head
    | plainString =>
      cases head
      exact ⟨h.grown, h.diagnostics⟩

/-- A compilation that answers with a reference keeps the reports complete: by induction on the
depth. Where the pattern of the shape is dropped, its report comes last, as the shape does in the
index, since there are no targets. -/
theorem compileWithin_reported {r : Registry} (keyed : r.Keyed) (depth : Nat) :
    VisitReports r (compileWithin depth) := by
  induction depth using Nat.strongRecOn with
  | ind depth ih =>
    intro c c' id ref h run
    have outcome := compileWithin_outcome depth c id
    rw [run] at outcome
    cases outcome with
    | hit => exact h
    | @built depth _ final _ shape registry node diagnostics unindexed resolved _ lowered =>
      obtain ⟨held, -, grown⟩ := Registry.resolve_ok resolved
      obtain ⟨refs, filled, made⟩ := lower_ok lowered
      have resolves : r.shape? id = some shape := by
        rw [← Registry.shape?_of_grows h.grown]
        exact held
      have report : diagnostics = (r.dropped? id).toList := by
        rw [Shape.diagnostics_of_node made, keyed.id_of_shape? resolves, Registry.dropped?,
          resolves, Option.bind_some]
      cases dropped : r.dropped? id with
      | none =>
        -- Nothing is to be reported of the id, so it can be indexed first.
        have inside := fillSlots_reported (ih depth (Nat.lt_succ_self _))
          (h.enter (h.grown.trans grown) unindexed dropped) filled
        refine ⟨inside.grown, ?_⟩
        show final.diagnostics ++ diagnostics = final.index.keys.filterMap r.dropped?
        rw [report, dropped, Option.toList_none, List.append_nil, inside.diagnostics]
      | some d =>
        -- A shape with a pattern leads to nothing, so its report comes right behind its entry.
        have flat : shape.slots = [] := by
          obtain ⟨s, source, -, resolves', asks, -⟩ := Registry.dropped?_eq_some_iff.1 dropped
          rw [resolves] at resolves'
          cases resolves'
          exact Shape.slots_of_pattern asks
        rw [flat] at filled
        cases filled
        refine ⟨h.grown.trans grown, ?_⟩
        have absent : id ∉ c.index.keys := Entries.lookup_eq_none_iff.1 unindexed
        show c.diagnostics ++ diagnostics = (c.index.insert id _).keys.filterMap r.dropped?
        rw [OrderedMap.keys_insert, if_neg absent, List.filterMap_append, ← h.diagnostics, report,
          dropped]
        simp [dropped]

/-- A call keeps the reports complete, whether it succeeds or fails. -/
theorem compile_reported {r : Registry} (keyed : r.Keyed) {c : Compiler} (h : Reported r c)
    (id : String) : Reported r (c.compile id).2 := by
  cases answer : (c.compile id).1 with
  | ok ref => exact compileWithin_reported keyed _ h (compileWithin_of_compile_ok answer)
  | error e =>
    -- Index and diagnostics are those from before the call.
    rw [compile_error answer]
    exact ⟨h.grown.trans (compile_grows c id).registry, h.diagnostics⟩

/-- A session reports the rejected patterns of the ids that it has indexed, in their order. -/
theorem session_reported {r : Registry} (keyed : r.Keyed) (ids : List String) :
    Reported r (session r ids) :=
  session_induction (P := Reported r) (.start r) (fun _ id h => compile_reported keyed h id) ids

/-- After any calls the diagnostics account for every dropped pattern, once.

Take any session on the registry of a document, calls that fail and later calls for the same ids
included. Its diagnostics are the reports of the indexed ids, in the order of the index, and no two
of them are of one shape. An indexed string or document without enum trait whose first pattern trait
the engine accepts has that pattern in its node. If the engine rejects it the node has no pattern,
and the report has the id of the shape, the source of the pattern and the message. -/
theorem session_accounts {document : Document} {r : Registry}
    (made : Registry.ofDocument document = .ok r) (ids : List String) :
    let c := session r ids
    c.diagnostics = c.index.keys.filterMap r.dropped? ∧
    (c.diagnostics.map Diagnostic.shape).Nodup ∧
    ∀ id ref s source, c.index.get? id = some ref → r.shape? id = some s →
      (s.kind = .string ∨ s.kind = .document) → Trait.enum? s.traits = none →
      Trait.pattern? s.traits = some source →
        match Regex.compile source with
        | .ok pattern =>
          pattern.source = source ∧
            ∃ length, c.finish.node ref = .string (some pattern) length none
        | .error e =>
          ⟨id, s!"pattern `{source}` dropped: {e.render source}"⟩ ∈ c.diagnostics ∧
            ∃ length, c.finish.node ref = .string none length none := by
  intro c
  have keyed := Registry.keyed_ofDocument made
  have reported : c.diagnostics = c.index.keys.filterMap r.dropped? :=
    (session_reported keyed ids).diagnostics
  refine ⟨reported, ?_, ?_⟩
  · -- A report names its shape, so no other id has the same report.
    rw [reported, List.map_filterMap]
    refine c.index.distinct.filterMap fun id id' shape mem mem' => ?_
    obtain ⟨d, dropped, rfl⟩ := Option.map_eq_some_iff.1 mem
    obtain ⟨d', dropped', same⟩ := Option.map_eq_some_iff.1 mem'
    rw [← Registry.shape_of_dropped? dropped, ← Registry.shape_of_dropped? dropped', same]
  · intro id ref s source indexed resolves kind unlisted first
    -- The node of the id was made from the shape that the id resolves to.
    have asks : s.pattern? = some source := Shape.pattern?_eq_some_iff.2 ⟨kind, unlisted, first⟩
    obtain ⟨shape, held, refs, diagnostics, -, node⟩ := (session_sound r ids).built indexed
    have same := shape?_of_session held
    rw [resolves] at same
    cases same
    obtain ⟨length, node⟩ := Shape.node_of_pattern asks node
    cases answer : Regex.compile source with
    | ok pattern =>
      rw [answer] at node
      exact ⟨Regex.source_of_compile answer, length, node⟩
    | error e =>
      rw [answer] at node
      refine ⟨?_, length, node⟩
      rw [reported, List.mem_filterMap]
      have mem : id ∈ c.index.keys :=
        List.mem_map.2 ⟨_, OrderedMap.get?_eq_some_iff.1 indexed, rfl⟩
      exact ⟨id, mem, Registry.dropped?_eq_some_iff.2 ⟨s, source, e, resolves, asks, answer, rfl⟩⟩

/-! ### A form that is compiled in vain -/

/-- A document with a code whose pattern looks ahead, which the engine does not do, with a name that
has a good pattern, and with a form that leads to both and to a shape that is not there. -/
def formDocument : Document :=
  let member (name target : String) : String × MemberDeclaration :=
    (name, { target, traits := .empty })
  let text (pattern : String) : Declaration :=
    { kind := "string"
      members := .empty
      traits := OrderedMap.ofList [("smithy.api#pattern", .string pattern)]
      identifiers := .empty }
  let form : Declaration :=
    { kind := "structure"
      members := OrderedMap.ofList
        [member "code" "ns#Code", member "name" "ns#Name", member "ghost" "ns#Ghost"]
      traits := .empty
      identifiers := .empty }
  { shapes := OrderedMap.ofList
      [("ns#Form", form), ("ns#Code", text "(?=a)"), ("ns#Name", text "a")] }

/-- The call for the form has come to the code and to the name, but it fails and takes back what it
reported. The call for the code reports the pattern again, and another call for it does not. -/
theorem formDocument_accounted : ∃ r, Registry.ofDocument formDocument = .ok r ∧
    (session r ["ns#Form"]).diagnostics = [] ∧
    let c := session r ["ns#Form", "ns#Name", "ns#Code", "ns#Form", "ns#Code"]
    c.diagnostics.map Diagnostic.shape = ["ns#Code"] ∧
    c.diagnostics = c.index.keys.filterMap r.dropped? := by
  have answers : (Registry.ofDocument formDocument).toOption.map (fun r =>
      ((session r ["ns#Form"]).diagnostics.map Diagnostic.shape,
        (session r ["ns#Form", "ns#Name", "ns#Code", "ns#Form", "ns#Code"]).diagnostics.map
          Diagnostic.shape)) = some ([], ["ns#Code"]) := by
    decide +kernel
  obtain ⟨r, made, both⟩ := Option.map_eq_some_iff.1 answers
  rw [toOption_eq_some_iff] at made
  obtain ⟨before, after⟩ := Prod.mk.inj both
  exact ⟨r, made, List.map_eq_nil_iff.1 before, after, (session_accounts made _).1⟩

end Compiler

end ShapeSchema
