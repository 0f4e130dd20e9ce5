import Mathlib.Data.List.Basic
import ShapeSchema.Command.Run
import ShapeSchema.Files.Tree
import ShapeSchema.Proofs.Lists

/-!
# `ShapeSchema.Proofs.Command.Run`: runs that only read

A run over a tree of files starts with what is printed so far and ends with a result, what is
printed then, and a tree. `Run.Gives` is the case in which the tree stays as it is. Such runs are
put together step by step (`Gives.bind`), and a run over a list prints what its steps print, in
order (`Gives.mapM`). `gives_loadModels` is the run that loads the model of one plain file.

`Run.Ensures` says of an answer what holds whatever the files are. All models that a run loads were
compiled from a document (`isCompiled_of_loadModels`).
-/

set_option autoImplicit false

namespace ShapeSchema

/-! ### Files that hold values -/

namespace FileTree

/-- The text of a file that holds the bytes of a text. -/
theorem readText_of_content {t : FileTree} {path text : String} {place : Place}
    (located : t.locate path = .ok (some place)) (plain : t.isDirectory place = false)
    (content : t.content? place = some text.toUTF8) : t.readText path = .ok text := by
  have decoded : String.fromUTF8? text.toUTF8 = some text := by
    unfold String.fromUTF8?
    exact dif_pos text.isValidUTF8
  have kind : t.kindAt? place = some .file := by
    rw [kindAt?, if_neg (by rw [plain]; exact Bool.false_ne_true), content]
    rfl
  rw [readText, located, except_ok_bind]
  simp only [kind, content, Option.bind_some, decoded]
  rfl

/-- The file at a path is text, and the text is that of a JSON value. -/
def Holds (t : FileTree) (path : String) (value : Json) : Prop :=
  ∃ text, t.readText path = .ok text ∧ Json.ofText text = .ok value

end FileTree

/-! ### Printing -/

namespace Printed

/-- What is printed after some lines more. -/
def add (p : Printed) (lines : List String) : Printed :=
  { p with output := lines.foldl (fun text line => text ++ line ++ "\n") p.output }

/-- What is printed after one more warning. -/
def warn (p : Printed) (line : String) : Printed :=
  { p with warnings := p.warnings ++ line ++ "\n" }

/-- Lines are added one after the other. -/
theorem add_append (p : Printed) (first second : List String) :
    p.add (first ++ second) = (p.add first).add second := by
  rw [add, add, add, List.foldl_append]

/-- Lines that are printed for one element after the other. -/
theorem foldl_add {α : Type} (lines : α → List String) (xs : List α) (p : Printed) :
    xs.foldl (fun p x => p.add (lines x)) p = p.add (xs.flatMap lines) := by
  induction xs generalizing p with
  | nil => rfl
  | cons x xs ih => rw [List.foldl_cons, List.flatMap_cons, add_append, ih]

end Printed

namespace Run

open FileTree (fileSystem)

variable {α β : Type} {t : FileTree} {p p' p'' : Printed}

/-- From `p` printed, the run ends with this result and with `p'` printed, and it leaves the tree as
it was. -/
def Gives (t : FileTree) (p : Printed) (x : Run (StateM FileTree) α) (result : Except Failure α)
    (p' : Printed) : Prop :=
  ((x.run).run p).run t = ((result, p'), t)

/-- A run that goes on ends as what comes after its first step does. -/
theorem Gives.bind {x : Run (StateM FileTree) α} {f : α → Run (StateM FileTree) β} {a : α}
    {result : Except Failure β} (first : Gives t p x (.ok a) p')
    (second : Gives t p' (f a) result p'') : Gives t p (x >>= f) result p'' := by
  unfold Gives at *
  rw [ExceptT.run_bind, StateT.run_bind, StateT.run_bind, first]
  exact second

/-- An answer prints nothing. -/
theorem gives_pure (a : α) : Gives t p (pure a) (.ok a) p := rfl

/-- Nor does a failure. -/
theorem gives_throw (e : Failure) :
    Gives t p (throw e : Run (StateM FileTree) α) (.error e) p := rfl

/-- A printed line is added to the output. -/
theorem gives_printLine (line : String) : Gives t p (printLine line) (.ok ()) (p.add [line]) := rfl

/-- A warning is added to the warnings. -/
theorem gives_warnLine (line : String) : Gives t p (warnLine line) (.ok ()) (p.warn line) := rfl

/-! ### Lists -/

section Lists

variable {f : α → Run (StateM FileTree) β} {answer : α → β} {step : Printed → α → Printed}
  {xs : List α}

/-- A run over a list ends with all answers, and with what its steps have printed in turn. -/
theorem Gives.mapM (each : ∀ x ∈ xs, ∀ p, Gives t p (f x) (.ok (answer x)) (step p x)) :
    Gives t p (xs.mapM f) (.ok (xs.map answer)) (xs.foldl step p) := by
  induction xs generalizing p with
  | nil => exact gives_pure []
  | cons x xs ih =>
    have rest := ih (p := step p x) fun y mem => each y (List.mem_cons_of_mem _ mem)
    rw [List.mapM_cons]
    exact (each x List.mem_cons_self p).bind (rest.bind (gives_pure _))

/-- A run over a list whose steps print nothing. -/
theorem Gives.mapM_quiet (each : ∀ x ∈ xs, ∀ p, Gives t p (f x) (.ok (answer x)) p) :
    Gives t p (xs.mapM f) (.ok (xs.map answer)) p := by
  have all : Gives t p (xs.mapM f) (.ok (xs.map answer)) (xs.foldl (fun p _ => p) p) :=
    Gives.mapM each
  rwa [List.foldl_fixed] at all

/-- A loop over a list. -/
theorem gives_forIn {f : α → Run (StateM FileTree) Unit}
    (each : ∀ x ∈ xs, ∀ p, Gives t p (f x) (.ok ()) (step p x)) :
    Gives t p (forIn xs PUnit.unit fun x _ => do f x; pure (.yield PUnit.unit)) (.ok PUnit.unit)
      (xs.foldl step p) := by
  induction xs generalizing p with
  | nil => exact gives_pure _
  | cons x xs ih =>
    have rest := ih (p := step p x) fun y mem => each y (List.mem_cons_of_mem _ mem)
    have first : Gives t p (f x >>= fun _ => pure (ForInStep.yield PUnit.unit))
        (.ok (.yield PUnit.unit)) (step p x) :=
      (each x List.mem_cons_self p).bind (gives_pure _)
    rw [List.forIn_cons]
    exact first.bind rest

end Lists

/-! ### Reading -/

/-- A file that holds a value is read as that value. -/
theorem gives_readJson {path : String} {value : Json} (holds : t.Holds path value) :
    Gives t p (readJson fileSystem path) (.ok value) p := by
  obtain ⟨text, read, parsed⟩ := holds
  have first : Gives t p (access (fileSystem.readText path)) (.ok (t.readText path)) p := rfl
  refine first.bind ?_
  rw [read]
  dsimp only
  rw [parsed]
  exact gives_pure value

/-- Paths without wildcards are taken as they are. -/
theorem gives_resolvePaths {patterns : List String}
    (plain : ∀ path ∈ patterns, hasWildcard path = false) :
    Gives t p (resolvePaths fileSystem patterns) (.ok patterns) p := by
  have each : ∀ path ∈ patterns, ∀ p, Gives t p (pathsOf fileSystem path) (.ok [path]) p := by
    intro path mem p
    rw [pathsOf, plain path mem]
    exact gives_pure [path]
  have alone : (patterns.map fun path => [path]).flatten = patterns := by
    rw [← List.flatMap_def, List.flatMap_singleton']
  refine (Gives.mapM_quiet each).bind ?_
  rw [alone]
  exact gives_pure patterns

/-- The model of one plain file, and a warning for each of its diagnostics. -/
theorem gives_loadModels {path : String} {document : Json} {m : CompiledModel}
    (plain : hasWildcard path = false) (holds : t.Holds path document)
    (compiled : CompiledModel.ofJson document = .ok m) :
    Gives t p (loadModels fileSystem { patterns := [path] })
      (.ok [⟨path, Path.fileStem path, m⟩])
      (m.diagnostics.foldl (fun p d => p.warn s!"warning: {path}: {d.shape}: {d.message}") p) := by
  have paths : Gives t p (resolvePaths fileSystem [path]) (.ok [path]) p :=
    gives_resolvePaths fun other mem => List.mem_singleton.1 mem ▸ plain
  have loaded : Gives t p (loadPath fileSystem { patterns := [path] } path)
      (.ok [⟨path, Path.fileStem path, m⟩])
      (m.diagnostics.foldl (fun p d => p.warn s!"warning: {path}: {d.shape}: {d.message}") p) := by
    refine (gives_readJson holds).bind ?_
    -- Without a pointer and a filter, the document of the file is the only one, and taken whole.
    have part : Gives t p (loadPath.liftExcept (m := StateM FileTree)
        (atPointer path document none)) (.ok document) p := gives_pure _
    refine part.bind ?_
    have documents : Gives t p (loadPath.liftExcept (m := StateM FileTree)
        (filtered path document none)) (.ok [document]) p := gives_pure _
    refine documents.bind ?_
    rw [compileAll, compiled]
    refine (gives_forIn fun d _ p => gives_warnLine _).bind ?_
    exact (gives_pure []).bind (gives_pure _)
  refine paths.bind ?_
  rw [List.mapM_cons, List.mapM_nil]
  have all : Gives t p (do
      let models ← loadPath fileSystem { patterns := [path] } path
      let others ← pure []
      pure (models :: others)) (.ok [[⟨path, Path.fileStem path, m⟩]])
      (m.diagnostics.foldl (fun p d => p.warn s!"warning: {path}: {d.shape}: {d.message}") p) :=
    loaded.bind ((gives_pure []).bind (gives_pure _))
  exact all.bind (gives_pure _)

/-! ### What an answer is known to be -/

section Answers

variable {σ : Type}

/-- The run of a sequence: its first part, and the rest from where that ends if it succeeds. -/
theorem run_sequence (x : Run (StateM σ) α) (f : α → Run (StateM σ) β) (p : Printed) (s : σ) :
    ((x >>= f).run.run p).run s =
      match (x.run.run p).run s with
      | ((.ok a, between), s') => ((f a).run.run between).run s'
      | ((.error e, between), s') => ((.error e, between), s') := by
  rw [ExceptT.run_bind, StateT.run_bind, StateT.run_bind]
  cases (x.run.run p).run s with
  | mk first s' =>
    obtain ⟨result, between⟩ := first
    cases result with
    | error e => rfl
    | ok a => rfl

/-- A sequence that succeeds has succeeded at its first part, and gone on from where that ended. -/
theorem run_sequence_ok {x : Run (StateM σ) α} {f : α → Run (StateM σ) β} {p p' : Printed}
    {s s' : σ} {b : β} (run : ((x >>= f).run.run p).run s = ((.ok b, p'), s')) :
    ∃ a between s₁, (x.run.run p).run s = ((.ok a, between), s₁) ∧
      ((f a).run.run between).run s₁ = ((.ok b, p'), s') := by
  rw [run_sequence] at run
  split at run
  · next a between s₁ step => exact ⟨a, between, s₁, step, run⟩
  · cases run

/-- If the run answers, the answer has the property, from whatever files it starts. -/
def Ensures (x : Run (StateM σ) α) (P : α → Prop) : Prop :=
  ∀ (s s' : σ) (p p' : Printed) (a : α), ((x.run).run p).run s = ((.ok a, p'), s') → P a

/-- What the first step ensures may be used for the next. -/
theorem Ensures.bind {x : Run (StateM σ) α} {f : α → Run (StateM σ) β} {P : α → Prop}
    {Q : β → Prop} (first : Ensures x P) (next : ∀ a, P a → Ensures (f a) Q) :
    Ensures (x >>= f) Q := by
  intro s s' p p' b run
  obtain ⟨a, between, s₁, step, rest⟩ := run_sequence_ok run
  exact next a (first _ _ _ _ a step) _ _ _ _ b rest

/-- Every run ensures what is true anyway. -/
theorem ensures_true (x : Run (StateM σ) α) : Ensures x fun _ => True :=
  fun _ _ _ _ _ _ => trivial

/-- An answer with the property ensures it. -/
theorem ensures_pure {a : α} {P : α → Prop} (holds : P a) :
    Ensures (pure a : Run (StateM σ) α) P := by
  intro s s' p p' b run
  cases run
  exact holds

/-- A failure answers nothing, so it ensures everything. -/
theorem ensures_throw {e : Failure} {P : α → Prop} :
    Ensures (throw e : Run (StateM σ) α) P := by
  intro s s' p p' a run
  cases run

/-- A run over a list answers with the answers of its steps. -/
theorem Ensures.mapM {f : α → Run (StateM σ) β} {R : α → β → Prop}
    (each : ∀ x, Ensures (f x) (R x)) (xs : List α) : Ensures (xs.mapM f) (List.Forall₂ R xs) := by
  induction xs with
  | nil => exact ensures_pure .nil
  | cons x xs ih =>
    rw [List.mapM_cons]
    exact (each x).bind fun y hy => ih.bind fun ys hys => ensures_pure (.cons hy hys)

/-- The model was compiled from a document. -/
def IsCompiled (l : Loaded) : Prop := ∃ document, CompiledModel.ofJson document = .ok l.model

/-- Every model that is loaded was compiled from a document, wherever in its file the document was
and whichever filter it came out of. -/
theorem isCompiled_of_loadModels {fs : FileSystem (StateM σ)} (inputs : Inputs) :
    Ensures (loadModels fs inputs) fun models => ∀ l ∈ models, IsCompiled l := by
  have documents (path : String) (several : Bool) (all : List Json) : ∀ position,
      Ensures (compileAll (m := StateM σ) path several position all) fun models =>
        ∀ l ∈ models, IsCompiled l := by
    induction all with
    | nil => exact fun position => ensures_pure fun l mem => absurd mem List.not_mem_nil
    | cons document rest ih =>
      intro position
      rw [compileAll]
      cases compiled : CompiledModel.ofJson document with
      | error e => exact ensures_throw
      | ok model =>
        refine (ensures_true _).bind fun _ _ => (ih _).bind fun others known => ensures_pure ?_
        exact List.forall_mem_cons.2 ⟨⟨document, compiled⟩, known⟩
  -- The steps before the compilation may read and choose what they like.
  have files (path : String) :
      Ensures (loadPath fs inputs path) fun models => ∀ l ∈ models, IsCompiled l :=
    (ensures_true _).bind fun _ _ => (ensures_true _).bind fun _ _ =>
      (ensures_true _).bind fun all _ => documents path _ all 0
  refine (ensures_true _).bind fun paths _ => (Ensures.mapM files paths).bind fun found known => ?_
  refine ensures_pure fun l mem => ?_
  obtain ⟨models, inside, mem⟩ := List.mem_flatten.1 mem
  obtain ⟨path, -, compiled⟩ := exists_of_forall₂ known.flip inside
  exact compiled l mem

end Answers

end Run

end ShapeSchema
