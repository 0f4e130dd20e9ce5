import ShapeSchema.Files.Glob
import ShapeSchema.Files.Tree
import ShapeSchema.Proofs.Except

/-!
# `ShapeSchema.Proofs.Files.Untouched`: operations that leave the files alone

The state behind the file operations holds more than the files: making a directory changes it, and
a machine may count its accesses in it. So a *view* `files` says which part of the state the files
are, and an operation is `Untouched files` if it leaves that part as it was, whatever it answers.

Of a file system only this is asked (`FileSystem.WritesWhole`): the operations that read, and the
making of a directory, leave the files alone, and a write that fails leaves them alone too. A tree
of files is such a file system (`FileTree.writesWhole`). Then a search for paths (`untouched_find`)
and the making of the directories around a path (`untouched_makeDirectories`) leave the files alone.
-/

set_option autoImplicit false

namespace ShapeSchema

section Operations

variable {σ φ α β : Type} {files : σ → φ}

/-- The operation leaves the files as they are, as far as `files` shows them. -/
def Untouched (files : σ → φ) (x : StateM σ α) : Prop := ∀ s, files (x.run s).2 = files s

/-- An answer that asks nothing of the state leaves the files alone. -/
theorem untouched_pure (a : α) : Untouched files (pure a) := fun _ => rfl

/-- One operation after another leaves the files alone if each of them does. -/
theorem Untouched.bind {x : StateM σ α} {f : α → StateM σ β} (first : Untouched files x)
    (next : ∀ a, Untouched files (f a)) : Untouched files (x >>= f) := by
  intro s
  rw [StateT.run_bind]
  exact (next _ _).trans (first s)

/-- A choice between two operations leaves the files alone if both of them do. -/
theorem Untouched.ite {c : Prop} [Decidable c] {x y : StateM σ α} (yes : Untouched files x)
    (no : Untouched files y) : Untouched files (if c then x else y) := by
  split
  · exact yes
  · exact no

/-- An operation that leaves the files alone may be run for every member of a list. -/
theorem Untouched.mapM {f : α → StateM σ β} (each : ∀ a, Untouched files (f a)) (as : List α) :
    Untouched files (as.mapM f) := by
  induction as with
  | nil => exact untouched_pure []
  | cons a as ih =>
    rw [List.mapM_cons]
    exact (each a).bind fun b => ih.bind fun bs => untouched_pure (b :: bs)

/-- It may also be run along a list with what it answered so far. -/
theorem Untouched.foldlM {f : β → α → StateM σ β} (each : ∀ b a, Untouched files (f b a))
    (as : List α) (b : β) : Untouched files (as.foldlM f b) := by
  induction as generalizing b with
  | nil => exact untouched_pure b
  | cons a as ih =>
    rw [List.foldlM_cons]
    exact (each b a).bind ih

end Operations

/-- Only a write touches the files, and only one that succeeds: a write happens in full or not at
all. Directories are no files, so making one leaves the files alone. -/
structure FileSystem.WritesWhole {σ φ : Type} (fs : FileSystem (StateM σ)) (files : σ → φ) :
    Prop where
  kind? : ∀ path, Untouched files (fs.kind? path)
  entries : ∀ path, Untouched files (fs.entries path)
  readText : ∀ path, Untouched files (fs.readText path)
  makeDirectory : ∀ path, Untouched files (fs.makeDirectory path)
  writeText : ∀ {path text : String} {s s' : σ} {e : FileError},
    (fs.writeText path text).run s = (.error e, s') → files s' = files s

/-! ### Trees of files -/

namespace FileTree

/-- A change of the tree that keeps the files leaves them alone, also where it fails. -/
theorem untouched_change {f : FileTree → Except FileError FileTree}
    (same : ∀ {t t'}, f t = .ok t' → t'.files = t.files) :
    Untouched FileTree.files (change f) := by
  intro t
  show (change f t).2.files = t.files
  rw [change]
  cases made : f t with
  | error e => rfl
  | ok t' => exact same made

/-- Making a directory adds a directory, and no file. -/
theorem files_of_makeDirectory {t t' : FileTree} {path : String}
    (made : t.makeDirectory path = .ok t') : t'.files = t.files := by
  obtain ⟨place, -, made⟩ := except_bind_ok made
  cases place with
  | none => cases made
  | some place =>
    dsimp only at made
    split at made
    · cases made
    · cases made
      rfl

/-- A tree is changed as a whole, so a write that fails has changed nothing. -/
theorem writesWhole : fileSystem.WritesWhole FileTree.files where
  kind? _ := fun _ => rfl
  entries _ := fun _ => rfl
  readText _ := fun _ => rfl
  makeDirectory _ := untouched_change files_of_makeDirectory
  writeText {path text t t' e} failed := by
    have changed : change (fun t => t.writeText path text) t = (.error e, t') := failed
    rw [change] at changed
    split at changed
    · cases changed
    · cases changed
      rfl

end FileTree

/-! ### Searches -/

variable {σ φ : Type} {fs : FileSystem (StateM σ)} {files : σ → φ}

namespace Glob

/-- The search for the names that match the next pattern only looks. -/
theorem untouched_candidates (whole : fs.WritesWhole files) (patterns : List (List Token)) :
    ∀ directory, Untouched files (candidates fs directory patterns) := by
  induction patterns with
  | nil => exact fun _ => untouched_pure []
  | cons tokens patterns ih =>
    intro directory
    have descend (path : String) : Untouched files
        (if patterns.isEmpty then pure [⟨path, []⟩] else candidates fs path patterns) :=
      (untouched_pure _).ite (ih path)
    rw [candidates]
    refine (whole.kind? directory).bind fun kind => ?_
    cases literal? tokens with
    | some name =>
      have look (isThere : Bool) : Untouched files
          (if isThere then
            if patterns.isEmpty then pure [⟨inside directory name, []⟩]
            else candidates fs (inside directory name) patterns
          else pure []) :=
        (descend _).ite (untouched_pure _)
      exact ((untouched_pure _).bind look).ite
        ((whole.kind? _).bind fun _ => (untouched_pure _).bind look)
    | none =>
      refine Untouched.ite ((whole.entries directory).bind fun names => ?_) (untouched_pure _)
      -- Only a pattern that starts with a dot is tried on the directory itself and the one around.
      refine Untouched.ite ?_ ((untouched_pure _).bind fun _ => untouched_pure _)
      refine (Untouched.foldlM (fun found name => ?_) _ _).bind fun _ => untouched_pure _
      exact ((descend _).bind fun _ => untouched_pure _).ite (untouched_pure _)

/-- A path is tried against the first of some patterns, and then what the others lead to is
visited. -/
theorem untouched_visitHere {directoriesOnly : Bool} {fuel : Nat} {path : String}
    (visitAll : ∀ rest, Untouched files (do
      let found ← candidates fs path rest
      return (← found.mapM (visit fs directoriesOnly fuel)).flatten))
    (patterns : List (List Token)) (allowed : List String) :
    Untouched files (match patterns, Path.fileName? path with
      | tokens :: rest, some name =>
        if !isMatch tokens name.toList then pure []
        else if rest.isEmpty then pure allowed
        else do
          let found ← candidates fs path rest
          return (← found.mapM (visit fs directoriesOnly fuel)).flatten
      | _, _ => pure []) := by
  split
  · exact (untouched_pure _).ite ((untouched_pure _).ite (visitAll _))
  · exact untouched_pure _

/-- Following a candidate to the paths below it only looks, at every depth. -/
theorem untouched_visit (whole : fs.WritesWhole files) (directoriesOnly : Bool) (fuel : Nat) :
    ∀ candidate, Untouched files (visit fs directoriesOnly fuel candidate) := by
  induction fuel with
  | zero => exact fun _ => untouched_pure []
  | succ fuel ih =>
    rintro ⟨path, patterns⟩
    -- The recursion is on the fuel: whatever is visited below leaves the files alone.
    have visitAll (rest : List (List Token)) : Untouched files (do
        let found ← candidates fs path rest
        return (← found.mapM (visit fs directoriesOnly fuel)).flatten) :=
      (untouched_candidates whole rest path).bind fun found =>
        (Untouched.mapM ih found).bind fun _ => untouched_pure _
    have visitHere := untouched_visitHere visitAll
    rw [visit]
    refine (whole.kind? path).bind fun kind => ?_
    cases patterns with
    | nil => exact untouched_pure _
    | cons tokens rest =>
      dsimp only
      refine Untouched.ite ?_ (visitHere _ _)
      have ends {here : List String} : Untouched files (if kind = some .directory then do
            let found ← candidates fs path (tokens :: rest.dropWhile isRecursive)
            let below ← do
              let paths ← found.mapM (visit fs directoriesOnly fuel)
              pure paths.flatten
            return here ++ below
          else do
            let below ← pure []
            return here ++ below) := by
        refine Untouched.ite ?_ ((untouched_pure _).bind fun _ => untouched_pure _)
        refine (untouched_candidates whole _ path).bind fun found => ?_
        exact ((Untouched.mapM ih found).bind fun _ => untouched_pure _).bind
          fun _ => untouched_pure _
      exact ((untouched_pure _).bind fun _ => ends).ite ((visitHere _ _).bind fun _ => ends)

/-- A search for paths looks at directories, and writes nothing. -/
theorem untouched_find (whole : fs.WritesWhole files) (pattern : String) :
    Untouched files (find fs pattern) := by
  rw [find]
  dsimp only
  split
  · exact untouched_pure _
  · refine (untouched_candidates whole _ _).bind fun found => ?_
    exact (Untouched.mapM (untouched_visit whole _ _) found).bind fun _ => untouched_pure _

end Glob

/-! ### Directories -/

namespace FileSystem

/-- A directory is made or was there already: no file is touched either way. -/
theorem untouched_ensureDirectory (whole : fs.WritesWhole files) (path : String) :
    Untouched files (fs.ensureDirectory path) := by
  rw [ensureDirectory]
  refine (whole.makeDirectory path).bind fun made => ?_
  cases made with
  | ok _ => exact untouched_pure _
  | error e =>
    exact (whole.kind? path).bind fun _ => (untouched_pure _).ite (untouched_pure _)

/-- The directories around a path are made without touching a file. -/
theorem untouched_makeDirectories (whole : fs.WritesWhole files) (paths : List String) :
    Untouched files (fs.makeDirectories paths) := by
  induction paths with
  | nil => exact untouched_pure _
  | cons path around ih =>
    have ensure := untouched_ensureDirectory whole path
    rw [makeDirectories]
    refine ensure.bind fun made => ?_
    split
    · refine ih.bind fun others => ?_
      split
      · exact ensure
      · exact untouched_pure _
    · exact untouched_pure _

end FileSystem

end ShapeSchema
