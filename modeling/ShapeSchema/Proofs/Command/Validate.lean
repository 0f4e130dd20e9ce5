import ShapeSchema.Proofs.Command.Run
import ShapeSchema.Proofs.Schema.Operation

/-!
# `ShapeSchema.Proofs.Command.Validate`: what documents are checked against

A run that checks documents reports, for each of them, the violations against one node of the model
(`reports_validate`). The name on the command line leads to that node: first as the id of a shape,
and only then as the name of an operation, whose request is meant.

The bare name of an operation is no id, so documents are checked against its request. Its full id is
the id of a shape, the operation itself, and the node of that takes every document: a run with the
full id reports no violation, whatever the request asks for (`validate_operation`).
-/

set_option autoImplicit false

namespace ShapeSchema

open FileTree (fileSystem)

/-- The lines that report the violations of a document. -/
def reportOf (path : String) (violations : List Violation) : List String :=
  if violations.isEmpty then [s!"✅ {path}"]
  else s!"❌ {path}" :: violations.map fun v => s!"    {v.display}"

/-- Documents with these violations pass, or some of them fail. -/
def verdictOf (found : List (String × List Violation)) : Except Failure Unit :=
  if found.all fun f => f.2.isEmpty then .ok ()
  else .error (.failedDocuments (found.countP fun f => !f.2.isEmpty))

/-- How a run ends that found these violations of documents: each document is reported, and the run
fails if some document has a violation. -/
def Outcome.ofFound (printed : Printed) (found : List (String × List Violation)) : Outcome where
  output := (printed.add (found.flatMap fun f => reportOf f.1 f.2)).output
  warnings := printed.warnings
  failure := match verdictOf found with
    | .ok () => none
    | .error e => some e

/-- On the tree, the command reports these violations after what is printed already, and it leaves
the tree as it was. -/
def Command.Reports (t : FileTree) (c : Command) (printed : Printed)
    (found : List (String × List Violation)) : Prop :=
  (c.outcome fileSystem).run t = (Outcome.ofFound printed found, t)

namespace Run

variable {t : FileTree} {p : Printed} {path shape : String} {l : Loaded} {root : Ref}

/-- A document is checked against one node, and its violations are reported. -/
theorem gives_checkDocument {m : CompiledModel} {value : Json} (holds : t.Holds path value) :
    Gives t p (checkDocument fileSystem m root path) (.ok (m.violations root value).isEmpty)
      (p.add (reportOf path (m.violations root value))) := by
  refine (gives_readJson holds).bind ?_
  dsimp only
  rw [reportOf]
  by_cases passes : (m.violations root value).isEmpty = true
  · rw [if_pos passes, if_pos passes, passes]
    exact (gives_printLine _).bind (gives_pure true)
  · rw [if_neg passes, if_neg passes, Bool.eq_false_iff.2 passes, ← List.singleton_append,
      Printed.add_append, List.map_eq_flatMap, ← Printed.foldl_add]
    refine (gives_printLine _).bind ?_
    exact (gives_forIn fun v _ p => gives_printLine _).bind (gives_pure false)

/-- All documents are checked against the node that the name leads to. -/
theorem gives_checkDocuments {paths : List String} {value : String → Json}
    (holds : ∀ path ∈ paths, t.Holds path (value path)) (found : rootOf shape l = .ok root) :
    Gives t p (checkDocuments fileSystem shape paths l)
      (.ok (paths.map fun path => (l.model.violations root (value path)).isEmpty))
      (p.add (paths.flatMap fun path => reportOf path (l.model.violations root (value path)))) := by
  rw [checkDocuments, found, ← Printed.foldl_add]
  exact Gives.mapM fun path mem p => gives_checkDocument (holds path mem)

/-- The run fails at its end if a document has violations, and counts those that have. -/
theorem gives_verdict {found : List (String × List Violation)} {verdicts : List Bool}
    (each : verdicts = found.map fun f => f.2.isEmpty) :
    Gives t p (if verdicts.all id then pure () else throw (.failedDocuments (verdicts.count false)))
      (verdictOf found) p := by
  have all : verdicts.all id = found.all fun f => f.2.isEmpty := by
    rw [each, List.all_map]
    rfl
  have failed : verdicts.count false = found.countP fun f => !f.2.isEmpty := by
    rw [each, List.count, List.countP_map]
    exact List.countP_congr fun f _ => by simp
  rw [verdictOf, all, failed]
  split
  · exact gives_pure ()
  · exact gives_throw _

end Run

open Run

/-- A run that checks documents reports the violations of each of them against the node that the
name leads to, model after model. -/
theorem reports_validate {t : FileTree} {inputs : Inputs} {shape : String}
    {data paths : List String} {models : List Loaded} {printed : Printed} {value : String → Json}
    {root : Loaded → Ref} (loads : Gives t {} (loadModels fileSystem inputs) (.ok models) printed)
    (finds : Gives t printed (resolvePaths fileSystem data) (.ok paths) printed)
    (holds : ∀ path ∈ paths, t.Holds path (value path))
    (roots : ∀ l ∈ models, rootOf shape l = .ok (root l)) :
    (Command.validate inputs shape data).Reports t printed
      (models.flatMap fun l => paths.map fun path =>
        (path, l.model.violations (root l) (value path))) := by
  generalize hfound : (models.flatMap fun l => paths.map fun path =>
    (path, l.model.violations (root l) (value path))) = found
  have checked : Gives t printed (models.mapM (checkDocuments fileSystem shape paths))
      (.ok (models.map fun l =>
        paths.map fun path => (l.model.violations (root l) (value path)).isEmpty))
      (printed.add (found.flatMap fun f => reportOf f.1 f.2)) := by
    have reports : (found.flatMap fun f => reportOf f.1 f.2) = models.flatMap fun l =>
        paths.flatMap fun path => reportOf path (l.model.violations (root l) (value path)) := by
      rw [← hfound, List.flatMap_assoc]
      simp only [List.flatMap_map]
    -- What is printed for a model comes in one piece, so the loops nest.
    rw [reports, ← Printed.foldl_add]
    exact Gives.mapM fun l mem p => gives_checkDocuments holds (roots l mem)
  have verdicts : (models.map fun l =>
      paths.map fun path => (l.model.violations (root l) (value path)).isEmpty).flatten =
        found.map fun f => f.2.isEmpty := by
    rw [← hfound, ← List.flatMap_def, List.map_flatMap]
    simp only [List.map_map, Function.comp_def]
  have run : Gives t {} ((Command.validate inputs shape data).run fileSystem) (verdictOf found)
      (printed.add (found.flatMap fun f => reportOf f.1 f.2)) :=
    loads.bind (finds.bind (checked.bind (gives_verdict verdicts)))
  rw [Command.Reports, Command.outcome, StateT.run_bind]
  have ends : (((Command.validate inputs shape data).run fileSystem).run.run {}).run t =
      ((verdictOf found, printed.add (found.flatMap fun f => reportOf f.1 f.2)), t) := run
  rw [ends]
  rfl

/-! ### The node of a name -/

section Names

variable {l : Loaded} {op : Shape} {name : String}

/-- The bare name of an operation leads to its request. -/
theorem rootOf_bareName {request : String} {root : Ref} (compiled : IsCompiled l)
    (declared : op ∈ l.model.operations) (bare : l.model.BareName name op)
    (known : l.model.requestShape? op.id = some request)
    (found : l.model.get? request = some root) : rootOf name l = .ok root := by
  obtain ⟨document, compiled⟩ := compiled
  obtain ⟨r, load, model⟩ := except_bind_ok compiled
  have keyed := (Registry.keyed_of_load load).of_grows (CompiledModel.registry_grows model)
  have unindexed := CompiledModel.get?_eq_none_of_unregistered model bare.unused
  have schema : l.model.requestSchema? name = some root := by
    rw [CompiledModel.requestSchema?, CompiledModel.requestShape?_bareName keyed declared bare,
      known, Option.bind_some, found]
  rw [rootOf, unindexed, Option.none_or, schema]

/-- The id of an operation leads to the operation itself, whose node takes every value. -/
theorem rootOf_id (compiled : IsCompiled l) (declared : op ∈ l.model.operations) :
    ∃ root, rootOf op.id l = .ok root ∧ ∀ value, l.model.violations root value = [] := by
  obtain ⟨document, compiled⟩ := compiled
  obtain ⟨r, load, model⟩ := except_bind_ok compiled
  have keyed := (Registry.keyed_of_load load).of_grows (CompiledModel.registry_grows model)
  obtain ⟨root, indexed, empty⟩ :=
    CompiledModel.node_of_operation model (Registry.isLoaded_of_load load) keyed declared
  refine ⟨root, ?_, CompiledModel.violations_of_empty empty⟩
  rw [rootOf, indexed, Option.some_or]

end Names

/-- Take a run that loads one model, in whatever way, and checks documents under the name of one of
its operations, which has a request.

Under the bare name, in any ASCII case, it reports exactly the violations of the documents against
the request, as long as no other operation has that name and no shape has it as its id. Under the
full id it reports no violation of any document. -/
theorem validate_operation {t : FileTree} {inputs : Inputs} {data paths : List String} {l : Loaded}
    {printed : Printed} {value : String → Json} {op : Shape} {request : String}
    (loads : Gives t {} (loadModels fileSystem inputs) (.ok [l]) printed)
    (finds : Gives t printed (resolvePaths fileSystem data) (.ok paths) printed)
    (holds : ∀ path ∈ paths, t.Holds path (value path)) (declared : op ∈ l.model.operations)
    (known : l.model.requestShape? op.id = some request) :
    ∃ root, l.model.get? request = some root ∧
      (∀ name, l.model.BareName name op → (Command.validate inputs name data).Reports t printed
        (paths.map fun path => (path, l.model.violations root (value path)))) ∧
      (Command.validate inputs op.id data).Reports t printed
        (paths.map fun path => (path, [])) := by
  have all := isCompiled_of_loadModels inputs t t {} printed [l] loads
  have compiled : IsCompiled l := all l List.mem_cons_self
  obtain ⟨root, found⟩ :=
    Option.isSome_iff_exists.1 (CompiledModel.isSome_get?_of_requestShape? known)
  refine ⟨root, found, fun name bare => ?_, ?_⟩
  · -- A bare name leads to the request.
    have roots : ∀ l' ∈ [l], rootOf name l' = .ok root := fun l' mem =>
      List.mem_singleton.1 mem ▸ rootOf_bareName compiled declared bare known found
    have reports := reports_validate loads finds holds roots
    rwa [List.flatMap_singleton] at reports
  · -- A full id is found as it is, and the node of an operation takes everything.
    obtain ⟨self, reached, takes⟩ := rootOf_id compiled declared
    have roots : ∀ l' ∈ [l], rootOf op.id l' = .ok self := fun l' mem =>
      List.mem_singleton.1 mem ▸ reached
    have reports := reports_validate loads finds holds roots
    rw [List.flatMap_singleton] at reports
    simpa only [takes] using reports

/-! ### A document that passes under one name -/

namespace Ping

/-- A model with an operation whose request asks for a member. -/
def modelText : String :=
  "\x7b\"shapes\":\x7b" ++
  "\"ns#Ping\":\x7b\"type\":\"operation\",\"input\":\x7b\"target\":\"ns#PingInput\"\x7d\x7d," ++
  "\"ns#PingInput\":\x7b\"type\":\"structure\"," ++
  "\"members\":\x7b\"city\":\x7b\"target\":\"smithy.api#String\"\x7d\x7d," ++
  "\"required\":[\"city\"]\x7d\x7d\x7d"

/-- The model, and beside it a document without the member. -/
def tree : FileTree where
  files := [(["m.json"], modelText.toUTF8), (["d.json"], "\x7b\x7d".toUTF8)]

/-- Checks the one document under a name of a shape or an operation. -/
def command (name : String) : Command := .validate { patterns := ["m.json"] } name ["d.json"]

/-- The document is found under its path. -/
theorem finds : Gives tree {} (resolvePaths fileSystem ["d.json"]) (.ok ["d.json"]) {} :=
  gives_resolvePaths (by decide +kernel)

/-- It holds the empty object. -/
theorem holds : ∀ path ∈ ["d.json"], tree.Holds path (.object []) := by
  intro path mem
  obtain rfl := List.mem_singleton.1 mem
  have located : tree.locate "d.json" = .ok (some ["d.json"]) := rfl
  exact ⟨_, FileTree.readText_of_content located rfl rfl, rfl⟩

/-- The model is loaded, and its operation has a request that the document does not satisfy. -/
theorem loads : ∃ l op root,
    Gives tree {} (loadModels fileSystem { patterns := ["m.json"] }) (.ok [l]) {} ∧
      op ∈ l.model.operations ∧ op.id = "ns#Ping" ∧ l.model.BareName "pING" op ∧
      l.model.requestShape? "ns#Ping" = some "ns#PingInput" ∧
      l.model.get? "ns#PingInput" = some root ∧ l.model.violations root (.object []) ≠ [] := by
  -- Everything that evaluation can say of the file is said at once.
  have answers : (Json.ofText modelText).toOption.bind (fun document =>
      (CompiledModel.ofJson document).toOption.map fun m =>
        (m.operations.map (fun op => op.id), m.diagnostics.length,
          (m.registry.get? "pING").isNone, m.requestShape? "ns#Ping",
          (m.get? "ns#PingInput").map fun root => (m.violations root (.object [])).length)) =
      some (["ns#Ping"], 0, true, some "ns#PingInput", some 1) := by
    decide +kernel
  simp only [Option.bind_eq_some_iff, Option.map_eq_some_iff, toOption_eq_some_iff,
    Prod.mk.injEq] at answers
  obtain ⟨document, parsed, m, compiled, operations, silent, unused, request, root, found, one⟩ :=
    answers
  obtain ⟨op, all, id⟩ := List.map_eq_singleton_iff.1 operations
  -- The other spelling of the name of the operation.
  have same : Text.sameIgnoringCase op.localName "pING" = true := by
    have characters : (localName "ns#Ping").toList.map Char.toLower =
        "pING".toList.map Char.toLower := by
      decide +kernel
    rw [Shape.localName, id, sameIgnoringCase_iff, ← String.toList_inj, String.toList_map,
      String.toList_map, characters]
  have located : tree.locate "m.json" = .ok (some ["m.json"]) := rfl
  have read : tree.Holds "m.json" document :=
    ⟨modelText, FileTree.readText_of_content located rfl rfl, parsed⟩
  have loads := gives_loadModels (p := {}) (by decide +kernel) read compiled
  rw [List.eq_nil_of_length_eq_zero silent] at loads
  refine ⟨_, op, root, loads, ?_, id, ⟨same, ?_, Option.isNone_iff_eq_none.1 unused⟩, request,
    found, ?_⟩
  · rw [all]
    exact List.mem_singleton_self op
  · intro other mem _
    rw [all] at mem
    exact List.mem_singleton.1 mem
  · intro none
    rw [none] at one
    cases one

/-- Under its bare name the operation has the document checked against the request, and under its id
not. -/
theorem reported : ∃ l root,
    Gives tree {} (loadModels fileSystem { patterns := ["m.json"] }) (.ok [l]) {} ∧
      l.model.get? "ns#PingInput" = some root ∧
      (command "pING").Reports tree {} [("d.json", l.model.violations root (.object []))] ∧
      (command "ns#Ping").Reports tree {} [("d.json", [])] := by
  obtain ⟨l, op, -, loaded, declared, id, bare, known, -, -⟩ := loads
  rw [← id] at known ⊢
  obtain ⟨root, found, named, full⟩ := validate_operation loaded finds holds declared known
  exact ⟨l, root, loaded, found, named "pING" bare, full⟩

/-- Under the id of the operation, the violation of its request is not reported. -/
theorem not_reported : ∃ l op request root,
    Gives tree {} (loadModels fileSystem { patterns := ["m.json"] }) (.ok [l]) {} ∧
      op ∈ l.model.operations ∧ l.model.requestShape? op.id = some request ∧
      l.model.get? request = some root ∧
      ¬ (command op.id).Reports tree {} [("d.json", l.model.violations root (.object []))] := by
  obtain ⟨l, op, root, loaded, declared, id, -, known, found, wrong⟩ := loads
  rw [← id] at known
  refine ⟨l, op, _, root, loaded, declared, known, found, fun reported => ?_⟩
  have compiled : IsCompiled l := isCompiled_of_loadModels _ tree tree {} {} [l] loaded l (by simp)
  obtain ⟨self, reached, takes⟩ := rootOf_id compiled declared
  have roots : ∀ l' ∈ [l], rootOf op.id l' = .ok self := fun l' mem =>
    List.mem_singleton.1 mem ▸ reached
  have passes : (command op.id).Reports tree {}
      [("d.json", l.model.violations self (.object []))] :=
    reports_validate loaded finds holds roots
  -- One run has one end, and only a run without violations does not fail.
  have outcome := (Prod.mk.inj (reported.symm.trans passes)).1
  have failure := congrArg Outcome.failure outcome
  rw [takes] at failure
  cases violations : l.model.violations root (.object []) with
  | nil => exact wrong violations
  | cons v vs =>
    rw [violations] at failure
    cases failure

end Ping

end ShapeSchema
