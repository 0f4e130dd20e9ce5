import ShapeSchema.Proofs.Command.Run
import ShapeSchema.Proofs.Files.Untouched

/-!
# `ShapeSchema.Proofs.Command.Output`: what a run leaves behind

A run that compiles has one action that anybody can see, its last: it prints its value, or it writes
it to a file. Everything before reads files and warns. So a run that fails, at whichever input,
document or shape, has printed nothing and leaves the files as they were, and a run that succeeds
has put out one value in full. A run that checks documents prints as it goes, but writes no file.
Both are `Command.outcome_allOrNothing`.

The files are those of any file system whose writes happen in full or not at all.
-/

set_option autoImplicit false

namespace ShapeSchema

open FileTree (fileSystem)

variable {σ φ ψ α β : Type} {fs : FileSystem (StateM σ)} {files : σ → φ}

namespace Run

/-! ### Runs that put nothing out -/

/-- However the run ends, it leaves the files alone, and of what is printed the part that `shown`
shows. -/
def Keeps (shown : Printed → ψ) (files : σ → φ) (x : Run (StateM σ) α) : Prop :=
  ∀ (p p' : Printed) (s s' : σ) (result : Except Failure α),
    ((x.run).run p).run s = ((result, p'), s') → shown p' = shown p ∧ files s' = files s

section Steps

variable {shown : Printed → ψ}

/-- An answer puts nothing out. -/
theorem keeps_pure (a : α) : Keeps shown files (pure a) := by
  intro p p' s s' result run
  cases run
  exact ⟨rfl, rfl⟩

/-- Nor does a failure. -/
theorem keeps_throw (e : Failure) :
    Keeps shown files (throw e : Run (StateM σ) α) := by
  intro p p' s s' result run
  cases run
  exact ⟨rfl, rfl⟩

/-- An operation on files prints nothing and answers whatever it answers. -/
theorem run_access (operation : StateM σ α) (p : Printed) (s : σ) :
    ((access operation).run.run p).run s =
      ((.ok (operation.run s).1, p), (operation.run s).2) :=
  rfl

/-- An operation that leaves the files alone does so within a run, and prints nothing. -/
theorem keeps_access {operation : StateM σ α} (alone : Untouched files operation) :
    Keeps shown files (access operation) := by
  intro p p' s s' result run
  rw [run_access] at run
  cases run
  exact ⟨rfl, alone s⟩

/-- One run after another puts nothing out if neither of them does. -/
theorem Keeps.bind {x : Run (StateM σ) α} {f : α → Run (StateM σ) β}
    (first : Keeps shown files x) (next : ∀ a, Keeps shown files (f a)) :
    Keeps shown files (x >>= f) := by
  intro p p' s s' result run
  rw [run_sequence] at run
  split at run
  · next a between s₁ step =>
    obtain ⟨shown₁, files₁⟩ := first _ _ _ _ _ step
    obtain ⟨shown₂, files₂⟩ := next a _ _ _ _ _ run
    exact ⟨shown₂.trans shown₁, files₂.trans files₁⟩
  · next e between s₁ step =>
    cases run
    exact first _ _ _ _ _ step

/-- A run that puts nothing out may be run for every member of a list. -/
theorem Keeps.mapM {f : α → Run (StateM σ) β} (each : ∀ a, Keeps shown files (f a))
    (as : List α) : Keeps shown files (as.mapM f) := by
  induction as with
  | nil => exact keeps_pure []
  | cons a as ih =>
    rw [List.mapM_cons]
    exact (each a).bind fun b => ih.bind fun bs => keeps_pure (b :: bs)

/-- So may one that answers nothing, in a loop. -/
theorem Keeps.forIn {f : α → Run (StateM σ) Unit} (each : ∀ a, Keeps shown files (f a))
    (as : List α) : Keeps shown files
      (forIn as PUnit.unit fun a _ => do f a; pure (.yield PUnit.unit)) := by
  induction as with
  | nil => exact keeps_pure _
  | cons a as ih =>
    have first : Keeps shown files (f a >>= fun _ => pure (ForInStep.yield PUnit.unit)) :=
      (each a).bind fun _ => keeps_pure _
    rw [List.forIn_cons]
    refine first.bind fun step => ?_
    cases step with
    | done _ => exact keeps_pure _
    | yield _ => exact ih

end Steps

/-! ### Loading -/

section Loading

variable {shown : Printed → ψ}

/-- Finding the paths of a pattern only looks. -/
theorem keeps_pathsOf (whole : fs.WritesWhole files) (pattern : String) :
    Keeps shown files (pathsOf fs pattern) := by
  rw [pathsOf]
  split
  · refine (keeps_access (Glob.untouched_find whole pattern)).bind fun found => ?_
    split
    · exact keeps_throw _
    · exact keeps_throw _
    · exact keeps_pure _
  · exact keeps_pure _

/-- Finding the paths of all patterns only looks. -/
theorem keeps_resolvePaths (whole : fs.WritesWhole files) (patterns : List String) :
    Keeps shown files (resolvePaths fs patterns) :=
  (Keeps.mapM (keeps_pathsOf whole) patterns).bind fun _ => keeps_pure _

/-- Reading a value from a file writes nothing, also if the file is missing or holds no value. -/
theorem keeps_readJson (whole : fs.WritesWhole files) (path : String) :
    Keeps shown files (readJson fs path) := by
  rw [readJson]
  refine (keeps_access (whole.readText path)).bind fun read => ?_
  cases read with
  | error e => exact keeps_throw _
  | ok text =>
    dsimp only
    split
    · exact keeps_pure _
    · exact keeps_throw _

/-- A result that was computed without the files puts nothing out. -/
theorem keeps_liftExcept (r : Except Failure α) :
    Keeps shown files (loadPath.liftExcept (m := StateM σ) r) := by
  cases r with
  | ok a => exact keeps_pure a
  | error e => exact keeps_throw e

/-- Documents are compiled one after the other. The warnings of those before one that fails have
been printed by then, and nothing else has. -/
theorem keeps_compileAll (quiet : ∀ p line, shown (Printed.warn p line) = shown p) (path : String)
    (several : Bool) (documents : List Json) : ∀ position,
      Keeps shown files (compileAll (m := StateM σ) path several position documents) := by
  have warns (line : String) : Keeps shown files (warnLine (m := StateM σ) line) := by
    intro p p' s s' result run
    cases run
    exact ⟨quiet p line, rfl⟩
  induction documents with
  | nil => exact fun _ => keeps_pure []
  | cons document rest ih =>
    intro position
    rw [compileAll]
    cases CompiledModel.ofJson document with
    | error e => exact keeps_throw _
    | ok model =>
      refine (Keeps.forIn (fun d => warns _) _).bind fun _ => ?_
      exact (ih _).bind fun others => keeps_pure _

/-- Loading models reads files and warns, and that is all it does, however it ends. -/
theorem keeps_loadModels (whole : fs.WritesWhole files)
    (quiet : ∀ p line, shown (Printed.warn p line) = shown p) (inputs : Inputs) :
    Keeps shown files (loadModels fs inputs) := by
  have load (path : String) : Keeps shown files (loadPath fs inputs path) :=
    (keeps_readJson whole path).bind fun document => (keeps_liftExcept _).bind fun part =>
      (keeps_liftExcept _).bind fun documents => keeps_compileAll quiet path _ documents 0
  exact (keeps_resolvePaths whole _).bind fun paths =>
    (Keeps.mapM load paths).bind fun _ => keeps_pure _

end Loading

/-! ### Checking -/

/-- The check of a document prints its verdict, and that is all it does. -/
theorem keeps_checkDocument (whole : fs.WritesWhole files) (m : CompiledModel) (root : Ref)
    (path : String) : Keeps (fun _ => ()) files (checkDocument fs m root path) := by
  have prints (line : String) : Keeps (fun _ => ()) files (printLine (m := StateM σ) line) := by
    intro p p' s s' result run
    cases run
    exact ⟨rfl, rfl⟩
  refine (keeps_readJson whole path).bind fun value => ?_
  dsimp only
  split
  · exact (prints _).bind fun _ => keeps_pure _
  · exact (prints _).bind fun _ => (Keeps.forIn (fun v => prints _) _).bind fun _ => keeps_pure _

/-- Checking documents reads them and prints, and writes nothing. -/
theorem keeps_checkDocuments (whole : fs.WritesWhole files) (shape : String) (data : List String)
    (l : Loaded) : Keeps (fun _ => ()) files (checkDocuments fs shape data l) := by
  rw [checkDocuments]
  split
  · exact keeps_throw _
  · exact Keeps.mapM (keeps_checkDocument whole _ _) data

end Run

/-- The value has been put out, and nothing else: it was printed, as lines of its own, or a write of
its whole text to the file succeeded. -/
def Delivers (fs : FileSystem (StateM σ)) (files : σ → φ) (out : Option String) (value : Json)
    (before : String × φ) (after : String × σ) : Prop :=
  match out with
  | none => after.1 = before.1 ++ value.pretty ++ "\n" ∧ files after.2 = before.2
  | some path => after.1 = before.1 ∧ ∃ s, files s = before.2 ∧
      (fs.writeText path value.pretty).run s = (.ok (), after.2)

namespace Run

/-! ### Runs with one output -/

/-- If the run fails, the files and the output are as they were; if it succeeds, one value has been
put out. -/
def AllOrNothing (fs : FileSystem (StateM σ)) (files : σ → φ) (out : Option String)
    (x : Run (StateM σ) Unit) : Prop :=
  ∀ (p p' : Printed) (s s' : σ) (result : Except Failure Unit),
    ((x.run).run p).run s = ((result, p'), s') →
      match result with
      | .error _ => p'.output = p.output ∧ files s' = files s
      | .ok () => ∃ value, Delivers fs files out value (p.output, files s) (p'.output, s')

variable {out : Option String}

/-- A run that fails right away has put nothing out. -/
theorem allOrNothing_throw (e : Failure) : AllOrNothing fs files out (throw e) := by
  intro p p' s s' result run
  cases run
  exact ⟨rfl, rfl⟩

/-- What puts nothing out may come first. -/
theorem Keeps.allOrNothing {x : Run (StateM σ) α} {f : α → Run (StateM σ) Unit}
    (first : Keeps Printed.output files x) (next : ∀ a, AllOrNothing fs files out (f a)) :
    AllOrNothing fs files out (x >>= f) := by
  intro p p' s s' result run
  rw [run_sequence] at run
  split at run
  · next a between s₁ step =>
    obtain ⟨output, same⟩ := first _ _ _ _ _ step
    have rest := next a _ _ _ _ _ run
    rwa [output, same] at rest
  · next e between s₁ step =>
    cases run
    exact first _ _ _ _ _ step

/-- A write to a file that fails is a failure of the run. -/
theorem allOrNothing_write (whole : fs.WritesWhole files) (path : String) (value : Json) :
    AllOrNothing fs files (some path) (do
      match ← access (fs.writeText path value.pretty) with
      | .error e => throw (.unwritable path e)
      | .ok () => return ()) := by
  intro p p' s s' result run
  rw [run_sequence, run_access] at run
  cases written : (fs.writeText path value.pretty).run s with
  | mk answer s₁ =>
    rw [written] at run
    cases answer with
    | error e =>
      cases run
      exact ⟨rfl, whole.writeText written⟩
    | ok _ =>
      cases run
      exact ⟨value, rfl, s, rfl, written⟩

/-- To emit a value is to put it out in full, or to fail and leave everything as it was. -/
theorem allOrNothing_emit (whole : fs.WritesWhole files) (value : Json) :
    AllOrNothing fs files out (emit fs out value) := by
  cases out with
  | none =>
    intro p p' s s' result run
    cases run
    exact ⟨value, rfl, rfl⟩
  | some path =>
    -- The directories around the file are made first, and may stay if the write fails.
    refine (keeps_access (FileSystem.untouched_makeDirectories whole _)).allOrNothing fun made => ?_
    cases made with
    | error e => exact allOrNothing_throw _
    | ok _ => exact allOrNothing_write whole path value

end Run

open Run

/-- Whatever is loaded and whatever goes wrong, a command that compiles is all-or-nothing. -/
theorem Command.allOrNothing_run (whole : fs.WritesWhole files) (inputs : Inputs)
    (option out : Option String) :
    AllOrNothing fs files out ((Command.schema inputs option out).run fs) ∧
      AllOrNothing fs files out ((Command.tools inputs option out).run fs) := by
  have loads : Keeps Printed.output files (loadModels fs inputs) :=
    keeps_loadModels whole (fun _ _ => rfl) inputs
  constructor
  · refine loads.allOrNothing fun loaded => ?_
    cases loaded.mapM (schemaOf option) with
    | error e => exact allOrNothing_throw e
    | ok schemas => exact allOrNothing_emit whole _
  · exact loads.allOrNothing fun loaded => allOrNothing_emit whole _

/-- A command that checks documents only reads. -/
theorem Command.keeps_run_validate (whole : fs.WritesWhole files) (inputs : Inputs)
    (shape : String) (data : List String) :
    Keeps (fun _ => ()) files ((Command.validate inputs shape data).run fs) := by
  refine (keeps_loadModels whole (fun _ _ => rfl) inputs).bind fun loaded => ?_
  refine (keeps_resolvePaths whole data).bind fun paths => ?_
  refine (Keeps.mapM (keeps_checkDocuments whole shape paths) loaded).bind fun verdicts => ?_
  dsimp only
  split
  · exact keeps_pure _
  · exact keeps_throw _

/-- The outcome of a command is read off its run. -/
theorem Command.run_of_outcome {c : Command} {s s' : σ} {o : Outcome}
    (ran : (c.outcome fs).run s = (o, s')) : ∃ result,
      (((c.run fs).run).run {}).run s = ((result, ⟨o.output, o.warnings⟩), s') ∧
        (o.failure = none ↔ result = .ok ()) := by
  rw [Command.outcome, StateT.run_bind] at ran
  cases ends : (((c.run fs).run).run {}).run s with
  | mk first s₁ =>
    obtain ⟨result, printed⟩ := first
    rw [ends] at ran
    cases ran
    refine ⟨result, rfl, ?_⟩
    cases result with
    | error e => simp
    | ok _ => simp

/-- Take any command, whatever arguments asked for it, and any files whose writes happen in full or
not at all.

A run that compiles schemas or tools and fails has printed nothing and leaves the files as they
were, wherever it failed. One that succeeds has put out one value: in full on the output, with the
files as they were, or in full in the file, with nothing on the output. A run that checks documents
leaves the files as they were, whether or not it fails. -/
theorem Command.outcome_allOrNothing (whole : fs.WritesWhole files) {c : Command} {s s' : σ}
    {o : Outcome} (ran : (c.outcome fs).run s = (o, s')) :
    match c with
    | .schema _ _ out | .tools _ _ out =>
      (o.failure ≠ none → o.output = "" ∧ files s' = files s) ∧
        (o.failure = none → ∃ value, Delivers fs files out value ("", files s) (o.output, s'))
    | .validate _ _ _ => files s' = files s := by
  obtain ⟨result, run, failed⟩ := run_of_outcome ran
  have ends {out : Option String} (one : AllOrNothing fs files out (c.run fs)) :
      (o.failure ≠ none → o.output = "" ∧ files s' = files s) ∧
        (o.failure = none → ∃ value, Delivers fs files out value ("", files s) (o.output, s')) := by
    have known := one _ _ _ _ _ run
    cases result with
    | error e => exact ⟨fun _ => known, fun none => nomatch failed.1 none⟩
    | ok _ => exact ⟨fun some => absurd (failed.2 rfl) some, fun _ => known⟩
  cases c with
  | schema inputs shape out => exact ends (allOrNothing_run whole inputs shape out).1
  | tools inputs lead out => exact ends (allOrNothing_run whole inputs lead out).2
  | validate inputs shape data => exact (keeps_run_validate whole inputs shape data _ _ _ _ _ run).2

/-! ### A run that fails late -/

/-- The text of a model with one shape, of a type that says all there is to it. -/
def oneShapeText (name type : String) : String :=
  "\x7b\"shapes\":\x7b\"ns#" ++ name ++ "\":\x7b\"type\":\"" ++ type ++ "\"\x7d\x7d\x7d"

namespace Lacking

/-- Two files with a model each. -/
def tree : FileTree where
  files := [(["a.json"], (oneShapeText "A" "string").toUTF8),
    (["b.json"], (oneShapeText "B" "string").toUTF8)]

/-- Asks for a shape that only the first of the models has. -/
def command : Command :=
  .schema { patterns := ["a.json", "b.json"] } (some "ns#A") (some "out/schema.json")

/-- Both models compile and the schema of the first is made, but none is put out. -/
theorem put_out_nothing :
    ((command.outcome fileSystem).run tree).1.failure ≠ none ∧
      ((command.outcome fileSystem).run tree).1.output = "" ∧
      ((command.outcome fileSystem).run tree).2.files = tree.files := by
  have label : (((command.outcome fileSystem).run tree).1.failure.bind fun
      | .unknownShape label _ => some label
      | _ => none) = some "b.json" := by
    decide +kernel
  have fails : ((command.outcome fileSystem).run tree).1.failure ≠ none := by
    intro none
    rw [none] at label
    cases label
  have ended : (command.outcome fileSystem).run tree =
      (((command.outcome fileSystem).run tree).1, ((command.outcome fileSystem).run tree).2) :=
    (Prod.eta _).symm
  exact ⟨fails, (Command.outcome_allOrNothing FileTree.writesWhole ended).1 fails⟩

end Lacking

end ShapeSchema
