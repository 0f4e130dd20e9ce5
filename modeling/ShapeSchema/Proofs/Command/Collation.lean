import ShapeSchema.Proofs.Command.Label
import ShapeSchema.Proofs.OrderedMap
import ShapeSchema.Proofs.Unicode.CharSet

/-!
# `ShapeSchema.Proofs.Command.Collation`: what is put out for several models

The schemas of several models are put out as one object, keyed by the labels of the models. An
object has every key once, so of the schemas with one label it has the last, in the place of the
first. A run therefore puts out the schemas of all models that it loads, in the order in which it
loads them, exactly if no two of its paths clash (`Command.schemas_collated`).
-/

set_option autoImplicit false

namespace ShapeSchema

open FileTree (fileSystem)

variable {σ φ : Type} {fs : FileSystem (StateM σ)} {files : σ → φ}

namespace Run

/-- Two schemas or more are keyed by their labels. -/
theorem collate_of_several {schemas : List (String × Json)} (several : 2 ≤ schemas.length) :
    collate schemas = .object (Entries.collect schemas) := by
  match schemas, several with
  | _ :: _ :: _, _ => rfl

/-- The schema of a model goes by its label. -/
theorem label_of_schemaOf {shape : Option String} {l : Loaded} {e : String × Json}
    (h : schemaOf shape l = .ok e) : e.1 = l.label := by
  unfold schemaOf at h
  split at h
  · cases h
    rfl
  · split at h
    · cases h
      rfl
    · cases h

/-- An output that succeeds has delivered the value that it was given. -/
theorem delivers_of_emit (whole : fs.WritesWhole files) {out : Option String} {value : Json}
    {p p' : Printed} {s s' : σ}
    (run : ((emit fs out value).run.run p).run s = ((.ok (), p'), s')) :
    Delivers fs files out value (p.output, files s) (p'.output, s') := by
  cases out with
  | none =>
    cases run
    exact ⟨rfl, rfl⟩
  | some path =>
    -- Making the directories around the file may change the state, but no file.
    obtain ⟨made, between, s₁, first, rest⟩ := run_sequence_ok run
    have directories : Keeps Printed.output files
        (access (fs.makeDirectories (Path.parents path).reverse)) :=
      keeps_access (FileSystem.untouched_makeDirectories whole _)
    obtain ⟨output, same⟩ := directories _ _ _ _ _ first
    cases made with
    | error e => cases rest
    | ok _ =>
      cases written : (fs.writeText path value.pretty).run s₁ with
      | mk answer s₂ =>
        dsimp only at rest
        rw [run_sequence, run_access, written] at rest
        cases answer with
        | error e => cases rest
        | ok _ =>
          cases rest
          exact ⟨output, s₁, same, written⟩

/-- What is printed first is all that is printed then. -/
theorem printed_of_delivers {value : Json} {kept : φ} {after : String} {s' : σ}
    (h : Delivers fs files none value ("", kept) (after, s')) : after = value.pretty ++ "\n" := by
  obtain ⟨printed, -⟩ := h
  rwa [String.empty_append] at printed

/-- Every loaded model has its schema, under its label, if all of them have one. -/
theorem forall₂_of_schemas {shape : Option String} {loaded : List Loaded}
    {schemas : List (String × Json)} (h : loaded.mapM (schemaOf shape) = .ok schemas) :
    List.Forall₂ (fun l e => e.1 = l.label ∧ schemaOf shape l = .ok e) loaded schemas := by
  refine (forall₂_of_mapM h).imp fun l e made => ?_
  exact ⟨label_of_schemaOf made, made⟩

end Run

open Run

/-- A run that succeeds has loaded models, made the schemas of all of them, and delivered what those
were collated to. -/
theorem Command.delivers_of_schema (whole : fs.WritesWhole files) {inputs : Inputs}
    {shape out : Option String} {s s' : σ} {o : Outcome}
    (ran : ((Command.schema inputs shape out).outcome fs).run s = (o, s'))
    (success : o.failure = none) : ∃ printed s₁ loaded schemas,
      ((loadModels fs inputs).run.run {}).run s = ((.ok loaded, printed), s₁) ∧
      List.Forall₂ (fun l e => e.1 = l.label ∧ schemaOf shape l = .ok e) loaded schemas ∧
      Delivers fs files out (collate schemas) ("", files s) (o.output, s') := by
  obtain ⟨result, run, succeeds⟩ := run_of_outcome ran
  obtain rfl := succeeds.1 success
  obtain ⟨loaded, printed, s₁, loads, rest⟩ := run_sequence_ok run
  -- Loading prints nothing and writes nothing.
  have reads : Keeps Printed.output files (loadModels fs inputs) :=
    keeps_loadModels whole (fun _ _ => rfl) inputs
  obtain ⟨output, same⟩ := reads _ _ _ _ _ loads
  cases made : loaded.mapM (schemaOf shape) with
  | error e =>
    rw [made] at rest
    cases rest
  | ok schemas =>
    rw [made] at rest
    have delivered := delivers_of_emit whole rest
    rw [output, same] at delivered
    exact ⟨printed, s₁, loaded, schemas, loads, forall₂_of_schemas made, delivered⟩

/-- Take any files whose writes happen in full or not at all, and any run that succeeds in making
schemas: of whatever inputs, for one shape or for all, printed or written.

The models were loaded path by path, each has its schema under its label, and what is put out is
what the schemas were collated to. From two models on that is an object. It has each label once,
where the label first came up, and under it the last schema that went by it. So it has an entry for
every model, and then these are the schemas in the order of the models, exactly if no two of the
paths clash. -/
theorem Command.schemas_collated (whole : fs.WritesWhole files) {inputs : Inputs}
    {shape out : Option String} {s s' : σ} {o : Outcome}
    (ran : ((Command.schema inputs shape out).outcome fs).run s = (o, s'))
    (success : o.failure = none) : ∃ batches schemas,
      Batches fs inputs s batches ∧
      List.Forall₂ (fun l e => e.1 = l.label ∧ schemaOf shape l = .ok e)
        (batches.flatMap Prod.snd) schemas ∧
      Delivers fs files out (collate schemas) ("", files s) (o.output, s') ∧
      (2 ≤ schemas.length → ∃ entries, collate schemas = .object entries ∧
        entries.map Prod.fst = (schemas.map Prod.fst).eraseDups ∧
        (∀ label, entries.lookup label = schemas.reverse.lookup label) ∧
        (entries.length = schemas.length ↔ Apart batches) ∧
        (entries = schemas ↔ Apart batches)) := by
  obtain ⟨printed, s₁, loaded, schemas, loads, made, delivered⟩ :=
    delivers_of_schema whole ran success
  obtain ⟨batches, known, rfl⟩ := batches_of_loadModels loads
  refine ⟨batches, schemas, known, made, delivered, fun several => ?_⟩
  have labels : schemas.map Prod.fst = (batches.flatMap Prod.snd).map (·.label) :=
    (map_eq_of_forall₂ (fun l e each => each.1.symm) made).symm
  -- The schemas are keyed by these labels, so they are all kept exactly if the labels are distinct.
  have distinct : (schemas.map Prod.fst).Nodup ↔ Apart batches := by
    rw [labels]
    exact known.nodup_iff
  refine ⟨Entries.collect schemas, collate_of_several several, Entries.keys_collect schemas,
    fun label => Entries.lookup_collect label schemas, ?_, ?_⟩
  · rw [← distinct]
    exact Entries.length_collect_eq_iff
  · rw [← distinct]
    exact Entries.collect_eq_self_iff

/-- Without a shape and a file, a run that loads models prints their schemas. -/
theorem Command.outcome_of_loadModels {inputs : Inputs} {s s' : σ} {loaded : List Loaded}
    {printed : Printed}
    (loads : ((loadModels fs inputs).run.run {}).run s = ((.ok loaded, printed), s')) :
    ((Command.schema inputs none none).outcome fs).run s =
      (⟨printed.output ++
          (collate (loaded.map fun l => (l.label, l.model.wholeSchema))).pretty ++ "\n",
        printed.warnings, none⟩, s') := by
  -- No model is refused when a schema of the whole is asked for.
  have made : loaded.mapM (schemaOf none) =
      .ok (loaded.map fun l => (l.label, l.model.wholeSchema)) := by
    clear loads
    induction loaded with
    | nil => rfl
    | cons l loaded ih =>
      rw [List.mapM_cons, ih]
      rfl
  have run : (((Command.schema inputs none none).run fs).run.run {}).run s =
      ((.ok (), { printed with output := printed.output ++
        (collate (loaded.map fun l => (l.label, l.model.wholeSchema))).pretty ++ "\n" }), s') := by
    rw [Command.run, run_sequence, loads]
    dsimp only
    rw [made]
    rfl
  rw [Command.outcome, StateT.run_bind, run]
  rfl

/-- A traversal each of whose steps answers and leaves the state alone. -/
theorem run_mapM_of_forall {α β σ : Type} {f : α → StateM σ β} {g : α → β} {s : σ} {xs : List α}
    (each : ∀ x ∈ xs, (f x).run s = (g x, s)) : (xs.mapM f).run s = (xs.map g, s) := by
  induction xs with
  | nil => rfl
  | cons x xs ih =>
    rw [List.mapM_cons, StateT.run_bind, each x List.mem_cons_self]
    show ((xs.mapM f >>= fun ys => pure (g x :: ys)) : StateM σ (List β)).run s = _
    rw [StateT.run_bind, ih fun y mem => each y (List.mem_cons_of_mem _ mem)]
    rfl

/-! ### Runs with and without a clash -/

namespace Collating

/-- The labels of the models that a run has loaded. -/
def labels? (r : (Except Failure (List Loaded) × Printed) × FileTree) : Option (List String) :=
  match r with
  | ((.ok loaded, _), _) => some (loaded.map (·.label))
  | _ => none

/-- Labels are there only if the models were loaded, and they are theirs. -/
theorem exists_of_labels? {r : (Except Failure (List Loaded) × Printed) × FileTree}
    {labels : List String} (h : labels? r = some labels) :
    ∃ loaded printed t, r = ((.ok loaded, printed), t) ∧ loaded.map (·.label) = labels := by
  unfold labels? at h
  split at h
  · next loaded printed t => exact ⟨loaded, printed, t, rfl, Option.some.inj h⟩
  · cases h

/-- Two files with a model each. -/
def apart : FileTree where
  files := [(["a.json"], (oneShapeText "A" "string").toUTF8),
    (["b.json"], (oneShapeText "B" "boolean").toUTF8)]

/-- Both files as inputs. -/
def both : Inputs := { patterns := ["a.json", "b.json"] }

/-- The schemas of both are printed. -/
theorem both_printed : ∃ schemas, schemas.map Prod.fst = ["a.json", "b.json"] ∧
    (((Command.schema both none none).outcome fileSystem).run apart).1.output =
      (Json.object schemas).pretty ++ "\n" := by
  have loads : labels? (((loadModels fileSystem both).run.run {}).run apart) =
      some ["a.json", "b.json"] := by
    decide +kernel
  -- The command succeeds, so the general law applies, and the labels are apart.
  have success :
      (((Command.schema both none none).outcome fileSystem).run apart).1.failure = none := by
    obtain ⟨loaded, printed, t, run, -⟩ := exists_of_labels? loads
    rw [Command.outcome_of_loadModels run]
  have ended : ((Command.schema both none none).outcome fileSystem).run apart =
      ((((Command.schema both none none).outcome fileSystem).run apart).1,
        (((Command.schema both none none).outcome fileSystem).run apart).2) :=
    (Prod.eta _).symm
  obtain ⟨batches, schemas, known, made, delivered, several⟩ :=
    Command.schemas_collated FileTree.writesWhole ended success
  have labels : (batches.flatMap Prod.snd).map (·.label) = ["a.json", "b.json"] := by
    obtain ⟨printed, t, run⟩ := known.loaded
    rw [run] at loads
    exact Option.some.inj loads
  have keys : schemas.map Prod.fst = ["a.json", "b.json"] :=
    (map_eq_of_forall₂ (fun l e each => each.1.symm) made).symm.trans labels
  have length : schemas.length = 2 := by
    simpa using congrArg List.length keys
  have noClash : Apart batches := known.nodup_iff.1 (by rw [labels]; decide)
  obtain ⟨entries, object, -, -, -, whole⟩ := several (by omega)
  obtain rfl := whole.2 noClash
  rw [object] at delivered
  exact ⟨entries, keys, printed_of_delivers delivered⟩

/-- A file with two models, and a file that has the name of one of their labels. -/
def clashing : FileTree where
  files := [(["m.json"],
      ("[" ++ oneShapeText "A" "string" ++ "," ++ oneShapeText "B" "boolean" ++ "]").toUTF8),
    (["m.json[0]"], ("[" ++ oneShapeText "C" "integer" ++ "]").toUTF8)]

/-- Takes every element of every file as a model. -/
def every : Inputs := { patterns := ["m.json*"], filter := some ".[]" }

/-- The files that the pattern finds, in the order in which they are loaded. -/
def names : List String := ["m.json", "m.json[0]"]

/-- The pattern, token by token. -/
def pattern : List Glob.Token :=
  [.char 'm', .char '.', .char 'j', .char 's', .char 'o', .char 'n', .anyChars]

/-- Following a name that was found to its end gives the name and changes nothing. -/
theorem run_visit (name : String) (mem : name ∈ names) :
    (Glob.visit fileSystem false (8191 + 1) ⟨name, [pattern]⟩).run clashing =
      ([name], clashing) := by
  have files : ∀ name ∈ names, Path.fileName? name = some name := by decide
  have hits : ∀ name ∈ names, Glob.isMatch pattern name.toList = true := by
    simp [names, pattern, Glob.isMatch]
  rw [Glob.visit, files name mem]
  dsimp only
  rw [hits name mem]
  rfl

/-- The search finds both files, in order. -/
theorem run_find : (Glob.find fileSystem "m.json*").run clashing = (.ok names, clashing) := by
  have sorted : (clashing.entries ".").mergeSort (fun a b => a ≤ b) = names := by
    have entries : clashing.entries "." = names := by decide +kernel
    rw [entries]
    simp [names, List.mergeSort]
  -- All but the order of the names is read off by computing.
  have opened : (Glob.find fileSystem "m.json*").run clashing = (do
      let paths ← (((clashing.entries ".").mergeSort fun a b => a ≤ b).map fun name =>
        (⟨name, [pattern]⟩ : Glob.Candidate)).mapM (Glob.visit fileSystem false (8191 + 1))
      return .ok paths.flatten : StateM FileTree (Except Glob.Error (List String))).run clashing :=
    rfl
  have visited : (names.mapM (Glob.visit fileSystem false (8191 + 1) ∘ fun name =>
      ⟨name, [pattern]⟩)).run clashing = (names.map fun name => [name], clashing) :=
    run_mapM_of_forall run_visit
  rw [opened, sorted, StateT.run_bind, List.mapM_map, visited]
  rfl

/-- The filter asks for every element of a value. -/
theorem apply_every (v : Json) : Jq.apply ".[]" v =
    Jq.documents 0 (Jq.eval Jq.depthLimit Jq.Scope.initial
      (.path .identity [.iterate false]) (.ofJson v)) := by
  have blank : ∀ c ∈ ['.', '[', ']'], Unicode.isWhiteSpace c = false := by
    -- A set is made of its table by sorting, which does not reduce. The table itself is searched.
    have outside : (['.', '[', ']'].all fun c =>
        (CharSet.entries Unicode.PropertyTable.whiteSpace).all fun r =>
          !decide (r.1 ≤ c.toNat ∧ c.toNat ≤ r.2)) = true := by
      decide +kernel
    intro c mem
    refine Bool.eq_false_iff.2 fun inside => ?_
    obtain ⟨r, entry, within⟩ := CharSet.contains_ofTable.1 inside
    have apart := List.all_eq_true.1 (List.all_eq_true.1 outside c mem) r entry
    simp [within] at apart
  simp only [List.forall_mem_cons] at blank
  obtain ⟨dot, left, right, -⟩ := blank
  have tokens : Jq.tokenize? ".[]" = some [.mark ".", .mark "[", .mark "]"] := by
    show (Jq.Lexer.tokens? 4 none ['.', '[', ']']).map Prod.fst = _
    simp [Jq.Lexer.tokens?, dot, left, right, Jq.Lexer.isNameStart, Jq.Lexer.isOperatorChar]
  have parsed : Jq.Term.parse? ".[]" = some (.path .identity [.iterate false]) := by
    rw [Jq.Term.parse?, tokens]
    rfl
  have resolved : (Jq.Term.path .identity [.iterate false]).isResolved Jq.Names.initial = true :=
    rfl
  rw [Jq.apply, parsed]
  exact if_pos resolved

/-- The first file holds two models, and the label of the first of them is the name of the second
file. -/
theorem labels_every : labels? (((loadModels fileSystem every).run.run {}).run clashing) =
    some ["m.json[0]", "m.json[1]", "m.json[0]"] := by
  have single : ((pathsOf fileSystem "m.json*").run.run {}).run clashing =
      ((.ok names, {}), clashing) := by
    rw [pathsOf, if_pos (by decide), run_sequence, run_access, run_find]
    rfl
  have paths : ((resolvePaths fileSystem every.patterns).run.run {}).run clashing =
      ((.ok names, {}), clashing) := by
    rw [resolvePaths, every, List.mapM_cons, run_sequence, run_sequence, single]
    rfl
  rw [loadModels, run_sequence, paths]
  unfold loadPath
  simp only [every, filtered, apply_every]
  decide +kernel

/-- Three models are loaded, and the object that is printed has two entries. -/
theorem schema_lost :
    (((Command.schema every none none).outcome fileSystem).run clashing).1.failure = none ∧
      (∃ loaded printed t, ((loadModels fileSystem every).run.run {}).run clashing =
        ((.ok loaded, printed), t) ∧ loaded.length = 3) ∧
      ∃ entries, entries.map Prod.fst = ["m.json[0]", "m.json[1]"] ∧
        (((Command.schema every none none).outcome fileSystem).run clashing).1.output =
          (Json.object entries).pretty ++ "\n" := by
  obtain ⟨loaded, printed, t, run, labels⟩ := exists_of_labels? labels_every
  -- Three models, and two of their labels are the same.
  have length : loaded.length = 3 := by
    simpa using congrArg List.length labels
  have quiet : printed.output = "" :=
    (keeps_loadModels FileTree.writesWhole (fun _ _ => rfl) every _ _ _ _ _ run).1
  rw [Command.outcome_of_loadModels run]
  refine ⟨rfl, ⟨loaded, printed, t, run, length⟩,
    Entries.collect (loaded.map fun l => (l.label, l.model.wholeSchema)), ?_, ?_⟩
  · rw [Entries.keys_collect, List.map_map]
    show (loaded.map (·.label)).eraseDups = _
    rw [labels]
    decide
  · rw [quiet, collate_of_several (by rw [List.length_map]; omega), String.empty_append]

end Collating

end ShapeSchema
