import Mathlib.Data.List.Nodup
import ShapeSchema.Proofs.Command.Output

/-!
# `ShapeSchema.Proofs.Command.Label`: the labels of loaded models

A model is labeled with the path that it came from, and with its position if the path gave several
(`Run.labelsOf`). The labels of one path are distinct, because a numbered label tells its path and
its position (`labelOf_inj`). Those of two paths may have one in common, in two ways (`Run.Clash`):
the same path came up twice, or one path is spelled like a numbered label of the other. There is no
other way, so the labels of a run are distinct exactly if no two of its paths clash
(`nodup_labels_iff`).

A run loads its models path by path (`Run.Batches`), so the condition on its paths is one on the
labels of its models (`Batches.nodup_iff`).
-/

set_option autoImplicit false

namespace ShapeSchema.Run

/-! ### Labels of paths -/

/-- The labels of the models of a path, by their number. -/
def labelsOf (path : String) (count : Nat) : List String :=
  (List.range count).map (labelOf path (decide (1 < count)))

/-- Two paths, with the numbers of models that they gave, have a label in common. -/
inductive Clash : String × Nat → String × Nat → Prop
  /-- The same path, with one model each time. -/
  | alone (path : String) : Clash (path, 1) (path, 1)
  /-- The same path, with several models each time. -/
  | several {path : String} {n k : Nat} (first : 1 < n) (second : 1 < k) : Clash (path, n) (path, k)
  /-- A path with one model that is spelled like a numbered label of another path. -/
  | spelled {path : String} {n i : Nat} (more : 1 < n) (inside : i < n) :
      Clash (labelOf path true i, 1) (path, n)
  | spelledAfter {path : String} {n i : Nat} (more : 1 < n) (inside : i < n) :
      Clash (path, n) (labelOf path true i, 1)

/-- One of several models is labelled by its path and, in brackets, its position. -/
theorem toList_labelOf (path : String) (i : Nat) :
    (labelOf path true i).toList = path.toList ++ '[' :: (Nat.toDigits 10 i ++ [']']) := by
  show (path ++ "[" ++ toString i ++ "]").toList = _
  simp [String.toList_append]

/-- The texts before and after the last bracket can be told apart. -/
theorem append_cons_inj {xs ys ds es : List Char} {c : Char} (left : c ∉ ds) (right : c ∉ es)
    (same : xs ++ c :: ds = ys ++ c :: es) : xs = ys ∧ ds = es := by
  rcases List.append_eq_append_iff.1 same with ⟨as, rfl, rest⟩ | ⟨as, rfl, rest⟩
  · cases as with
    | nil => simpa using rest
    | cons a as =>
      -- Then the second bracket would stand among the first digits.
      rw [List.cons_append, List.cons.injEq] at rest
      exact absurd (by rw [rest.2]; simp) left
  · cases as with
    | nil => simpa [eq_comm] using rest
    | cons a as =>
      rw [List.cons_append, List.cons.injEq] at rest
      exact absurd (by rw [rest.2]; simp) right

/-- A numbered label tells its path and its position. -/
theorem labelOf_inj {p q : String} {i j : Nat} :
    labelOf p true i = labelOf q true j ↔ p = q ∧ i = j := by
  refine ⟨fun same => ?_, fun ⟨path, position⟩ => by rw [path, position]⟩
  -- What follows the path has one opening bracket, its first character, whatever the path holds.
  have bracketless (n : Nat) : '[' ∉ Nat.toDigits 10 n ++ [']'] := by
    intro mem
    rcases List.mem_append.1 mem with digit | close
    · have isDigit := Nat.isDigit_of_mem_toDigits (by omega) (by omega) digit
      revert isDigit
      decide
    · revert close
      decide
  have lists := congrArg String.toList same
  rw [toList_labelOf, toList_labelOf] at lists
  obtain ⟨path, rest⟩ := append_cons_inj (bracketless i) (bracketless j) lists
  refine ⟨String.toList_inj.1 path, ?_⟩
  have digits : Nat.toDigits 10 i = Nat.toDigits 10 j := List.append_cancel_right rest
  -- Reading the digits back gives the number.
  have values := congrArg (fun ds => Nat.ofDigitChars 10 ds 0) digits
  simpa using values

/-- A path that holds one model labels it by itself, and one that holds several labels each by its
position. -/
theorem mem_labelsOf {path label : String} {n : Nat} :
    label ∈ labelsOf path n ↔
      n = 1 ∧ label = path ∨ 1 < n ∧ ∃ i < n, label = labelOf path true i := by
  rw [labelsOf, List.mem_map]
  by_cases several : 1 < n
  · have other : n ≠ 1 := by omega
    simp [several, other, eq_comm]
  · by_cases alone : n = 1
    · subst alone
      simp [labelOf, eq_comm]
    · -- A path without models has no labels.
      obtain rfl : n = 0 := by omega
      simp

/-- The labels of the models of one path are distinct. -/
theorem nodup_labelsOf (path : String) (n : Nat) : (labelsOf path n).Nodup := by
  by_cases several : 1 < n
  · refine List.Nodup.map_on (fun i _ j _ same => ?_) List.nodup_range
    rw [decide_eq_true several] at same
    exact (labelOf_inj.1 same).2
  · rcases (show n = 0 ∨ n = 1 by omega) with rfl | rfl
    · exact List.nodup_nil
    · exact List.nodup_singleton _

/-- Paths clash exactly if they have a label in common. -/
theorem clash_iff {a b : String × Nat} :
    Clash a b ↔ ∃ label, label ∈ labelsOf a.1 a.2 ∧ label ∈ labelsOf b.1 b.2 := by
  obtain ⟨p, n⟩ := a
  obtain ⟨q, k⟩ := b
  simp only [mem_labelsOf]
  constructor
  · intro clash
    cases clash with
    | alone => exact ⟨p, .inl ⟨rfl, rfl⟩, .inl ⟨rfl, rfl⟩⟩
    | several first second =>
      exact ⟨labelOf p true 0, .inr ⟨first, 0, by omega, rfl⟩, .inr ⟨second, 0, by omega, rfl⟩⟩
    | spelled more inside => exact ⟨_, .inl ⟨rfl, rfl⟩, .inr ⟨more, _, inside, rfl⟩⟩
    | spelledAfter more inside => exact ⟨_, .inr ⟨more, _, inside, rfl⟩, .inl ⟨rfl, rfl⟩⟩
  · -- Each of the two is the path itself or one of the numbered labels.
    rintro ⟨label, ⟨rfl, rfl⟩ | ⟨first, i, insideFirst, rfl⟩,
      ⟨rfl, same⟩ | ⟨second, j, insideSecond, same⟩⟩
    · subst same
      exact .alone _
    · subst same
      exact .spelled second insideSecond
    · subst same
      exact .spelledAfter first insideFirst
    · obtain ⟨rfl, rfl⟩ := labelOf_inj.1 same
      exact .several first second

/-- The labels of paths, one after the other, are distinct exactly if no two paths clash. -/
theorem nodup_labels_iff {batches : List (String × Nat)} :
    (batches.flatMap fun b => labelsOf b.1 b.2).Nodup ↔
      batches.Pairwise fun a b => ¬ Clash a b := by
  have disjoint {a b : String × Nat} :
      List.Disjoint (labelsOf a.1 a.2) (labelsOf b.1 b.2) ↔ ¬ Clash a b := by
    rw [clash_iff, List.disjoint_left]
    simp only [not_exists, not_and]
  rw [List.nodup_flatMap]
  constructor
  · rintro ⟨-, apart⟩
    exact apart.imp disjoint.1
  · intro apart
    exact ⟨fun b _ => nodup_labelsOf b.1 b.2, apart.imp disjoint.2⟩

/-! ### Labels of runs -/

variable {σ : Type} {fs : FileSystem (StateM σ)}

/-- Documents are labeled by their positions. -/
theorem labels_of_compileAll (path : String) (several : Bool) (documents : List Json) :
    ∀ position, Ensures (compileAll (m := StateM σ) path several position documents) fun loaded =>
      loaded.map (·.label) =
        (List.range' position documents.length).map (labelOf path several) := by
  induction documents with
  | nil => exact fun position => ensures_pure rfl
  | cons document rest ih =>
    intro position
    rw [compileAll]
    cases CompiledModel.ofJson document with
    | error e => exact ensures_throw
    | ok model =>
      -- The warnings come first, and say nothing about labels.
      refine (ensures_true _).bind fun _ _ => (ih (position + 1)).bind fun others later => ?_
      refine ensures_pure ?_
      rw [List.map_cons, later, List.length_cons, List.range'_succ, List.map_cons]

/-- The models of a path have the labels of the path. -/
theorem labels_of_loadPath (inputs : Inputs) (path : String) :
    Ensures (loadPath fs inputs path) fun loaded =>
      loaded.map (·.label) = labelsOf path loaded.length := by
  refine (ensures_true _).bind fun document _ => (ensures_true _).bind fun part _ => ?_
  refine (ensures_true _).bind fun documents _ => ?_
  intro s s' p p' loaded run
  have labels := labels_of_compileAll path _ documents 0 s s' p p' loaded run
  have length : loaded.length = documents.length := by
    simpa using congrArg List.length labels
  rw [labels, labelsOf, length, List.range_eq_range']

/-- The models that a run loads, path by path: the paths are those that the patterns lead to, and
the models of a path are labeled with it. -/
structure Batches (fs : FileSystem (StateM σ)) (inputs : Inputs) (s : σ)
    (batches : List (String × List Loaded)) : Prop where
  resolved : ∃ printed s₁, ((resolvePaths fs inputs.patterns).run.run {}).run s =
    ((.ok (batches.map Prod.fst), printed), s₁)
  loaded : ∃ printed s₁, ((loadModels fs inputs).run.run {}).run s =
    ((.ok (batches.flatMap Prod.snd), printed), s₁)
  labeled : ∀ b ∈ batches, b.2.map (·.label) = labelsOf b.1 b.2.length

/-- Models that were loaded were loaded in batches. -/
theorem batches_of_loadModels {inputs : Inputs} {s s₁ : σ} {printed : Printed}
    {loaded : List Loaded}
    (run : ((loadModels fs inputs).run.run {}).run s = ((.ok loaded, printed), s₁)) :
    ∃ batches, Batches fs inputs s batches ∧ batches.flatMap Prod.snd = loaded := by
  -- The run resolves the paths, then loads each of them, and joins what it has loaded.
  obtain ⟨paths, between, s₂, resolved, rest⟩ := run_sequence_ok run
  obtain ⟨found, _, _, each, last⟩ := run_sequence_ok rest
  obtain rfl : loaded = found.flatten := by
    cases last
    rfl
  have labels := Ensures.mapM (labels_of_loadPath inputs) paths _ _ _ _ _ each
  -- There is one list of models for each path, so the two are joined pair by pair.
  have length := labels.length_eq
  have paths_eq : (paths.zip found).map Prod.fst = paths := List.map_fst_zip (by omega)
  have found_eq : (paths.zip found).map Prod.snd = found := List.map_snd_zip (by omega)
  have flat : (paths.zip found).flatMap Prod.snd = found.flatten := by
    rw [List.flatMap_def, found_eq]
  refine ⟨paths.zip found, ⟨⟨between, s₂, ?_⟩, ⟨printed, s₁, ?_⟩, ?_⟩, flat⟩
  · rw [paths_eq]
    exact resolved
  · rw [flat]
    exact run
  · intro b mem
    exact List.forall₂_zip labels mem

/-- No two of the paths clash. -/
def Apart (batches : List (String × List Loaded)) : Prop :=
  (batches.map fun b => (b.1, b.2.length)).Pairwise fun a b => ¬ Clash a b

/-- The labels of all models are distinct exactly if no two of the paths clash. -/
theorem Batches.nodup_iff {inputs : Inputs} {s : σ} {batches : List (String × List Loaded)}
    (h : Batches fs inputs s batches) :
    ((batches.flatMap Prod.snd).map (·.label)).Nodup ↔ Apart batches := by
  have labels : (batches.flatMap Prod.snd).map (·.label) =
      (batches.map fun b => (b.1, b.2.length)).flatMap fun b => labelsOf b.1 b.2 := by
    rw [List.map_flatMap, List.flatMap_map]
    exact List.flatMap_congr fun b mem => h.labeled b mem
  rw [labels]
  exact nodup_labels_iff

end ShapeSchema.Run
