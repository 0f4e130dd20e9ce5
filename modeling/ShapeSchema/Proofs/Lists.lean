import Mathlib.Data.List.Forall2
import Mathlib.Data.List.Induction
import Mathlib.Data.List.Pairwise
import ShapeSchema.Proofs.Except

/-!
# `ShapeSchema.Proofs.Lists`: lists that correspond, are ordered, or have no repetitions

Two lists that are related element by element (`List.Forall₂`) have equal images, and equal
traversals, under functions that agree on related elements.

In a list that is ordered by a strict relation, the first element of a kind is the one that is
related to all others of the kind (`find?_eq_some_iff_of_pairwise`).

Where a table keeps the order of first insertion, its keys are the inserted ones without repetitions
(`List.eraseDups`). A list is as long without its repetitions only if it has none.
-/

set_option autoImplicit false

namespace ShapeSchema

/-- Related lists have equal images under functions that agree on related elements: mapping keeps
the relation, and lists that are related by equality are equal. -/
theorem map_eq_of_forall₂ {α β γ : Type} {S : α → β → Prop} {f : α → γ} {g : β → γ}
    (agree : ∀ a b, S a b → f a = g b) {as : List α} {bs : List β} (h : List.Forall₂ S as bs) :
    as.map f = bs.map g := by
  have images : List.Forall₂ (· = ·) (as.map f) (bs.map g) := List.rel_map agree h
  rwa [List.forall₂_eq_eq_eq] at images

/-- Related lists give the same first answer under functions that agree on related elements. -/
theorem findSome?_eq_of_forall₂ {α β γ : Type} {S : α → β → Prop} {f : α → Option γ}
    {g : β → Option γ} (agree : ∀ a b, S a b → f a = g b) {as : List α} {bs : List β}
    (h : List.Forall₂ S as bs) : as.findSome? f = bs.findSome? g := by
  induction h with
  | nil => rfl
  | cons head _ ih => rw [List.findSome?_cons, List.findSome?_cons, agree _ _ head, ih]

/-- An element of the first of two related lists has a partner in the second. -/
theorem exists_of_forall₂ {α β : Type} {S : α → β → Prop} {as : List α} {bs : List β}
    (h : List.Forall₂ S as bs) {a : α} (ha : a ∈ as) : ∃ b ∈ bs, S a b := by
  induction h with
  | nil => cases ha
  | cons head _ ih =>
    rcases List.mem_cons.1 ha with rfl | later
    · exact ⟨_, List.mem_cons_self, head⟩
    · obtain ⟨b, hb, related⟩ := ih later
      exact ⟨b, List.mem_cons_of_mem _ hb, related⟩

/-- A relation between the elements of two lists may be weakened with the elements in mind. -/
theorem forall₂_imp_of_mem {α β : Type} {S T : α → β → Prop} {as : List α} {bs : List β}
    (weaker : ∀ a ∈ as, ∀ b ∈ bs, S a b → T a b) (h : List.Forall₂ S as bs) :
    List.Forall₂ T as bs := by
  refine List.forall₂_iff_zip.2 ⟨h.length_eq, fun {a b} mem => ?_⟩
  have elements := List.of_mem_zip mem
  exact weaker a elements.1 b elements.2 (List.forall₂_zip h mem)

/-- Related lists have equal traversals under functions that agree on related elements. -/
theorem mapM_eq_of_forall₂ {α β γ : Type} {S : α → β → Prop} {f : α → Option γ}
    {g : β → Option γ} (agree : ∀ a b, S a b → f a = g b) {as : List α} {bs : List β}
    (h : List.Forall₂ S as bs) : as.mapM f = bs.mapM g := by
  induction h with
  | nil => rfl
  | cons head _ ih => rw [List.mapM_cons, List.mapM_cons, agree _ _ head, ih]

/-- A traversal succeeds exactly if it does at every element. -/
theorem mapM_eq_some_iff {α β : Type} {f : α → Option β} {xs : List α} {ys : List β} :
    xs.mapM f = some ys ↔ List.Forall₂ (fun x y => f x = some y) xs ys := by
  induction xs generalizing ys with
  | nil => cases ys <;> simp
  | cons x xs ih =>
    rw [List.mapM_cons]
    cases h : f x with
    | none => cases ys <;> simp [h]
    | some y => cases ys <;> simp [h, Option.bind_eq_some_iff, ih, and_comm]

/-- A traversal that succeeds has done so at every element. -/
theorem forall₂_of_mapM {ε α β : Type} {f : α → Except ε β} {xs : List α} {ys : List β}
    (h : xs.mapM f = .ok ys) : List.Forall₂ (fun x y => f x = .ok y) xs ys := by
  rw [← toOption_eq_some_iff, toOption_mapM, mapM_eq_some_iff] at h
  exact h.imp fun x y answer => toOption_eq_some_iff.1 answer

/-- A traversal of entries that keeps the keys: each value has its answer, under its key. -/
theorem forall₂_of_mapM_values {ε α β : Type} {f : String → α → Except ε β}
    {entries : List (String × α)} {answers : List (String × β)}
    (h : entries.mapM (fun e => do return (e.1, ← f e.1 e.2)) = .ok answers) :
    List.Forall₂ (fun e x => e.1 = x.1 ∧ f e.1 e.2 = .ok x.2) entries answers := by
  refine (forall₂_of_mapM h).imp fun e x answer => ?_
  obtain ⟨b, each, pair⟩ := except_bind_ok answer
  cases pair
  exact ⟨rfl, each⟩

/-- Traversals of corresponding lists have corresponding answers. -/
theorem rel_mapM {α α' β β' : Type} {T : α → α' → Prop} {S : β → β' → Prop} {f : α → Option β}
    {f' : α' → Option β'} (step : ∀ a a', T a a' → Option.Rel S (f a) (f' a')) {as : List α}
    {as' : List α'} (h : List.Forall₂ T as as') :
    Option.Rel (List.Forall₂ S) (as.mapM f) (as'.mapM f') := by
  induction h with
  | nil => exact .some .nil
  | cons head _ ih =>
    rw [List.mapM_cons, List.mapM_cons]
    exact rel_bind (step _ _ head) fun b b' hb => rel_bind ih fun bs bs' hbs => .some (.cons hb hbs)

/-! ### Order -/

section Order

variable {α : Type} {R : α → α → Prop} {as : List α}

/-- Two elements of a list are related one way or the other, if the earlier ones are to the later
ones. -/
theorem or_of_pairwise (ordered : as.Pairwise R) {a b : α} (memA : a ∈ as) (memB : b ∈ as)
    (other : a ≠ b) : R a b ∨ R b a := by
  have either : as.Pairwise fun a b => R a b ∨ R b a := ordered.imp .inl
  have : Std.Symm fun a b => R a b ∨ R b a := ⟨fun _ _ => Or.symm⟩
  exact either.forall memA memB other

/-- In a list with a strict order, the first element of a kind is the one that stands before all
others of the kind. -/
theorem find?_eq_some_iff_of_pairwise (ordered : as.Pairwise R)
    (asymm : ∀ {a b}, R a b → ¬ R b a) {p : α → Bool} {a : α} :
    as.find? p = some a ↔ a ∈ as ∧ p a = true ∧ ∀ b ∈ as, p b = true → b ≠ a → R a b := by
  -- What is before the element fails the test, and what is behind it is related to it.
  have first {a : α} (found : as.find? p = some a) :
      ∀ b ∈ as, p b = true → b ≠ a → R a b := by
    intro b mem kind other
    obtain ⟨-, before, after, rfl, none⟩ := List.find?_eq_some_iff_append.1 found
    have rest := (List.pairwise_append.1 ordered).2.1
    rcases List.mem_append.1 mem with earlier | later
    · have missed := none b earlier
      rw [kind] at missed
      cases missed
    · exact (List.pairwise_cons.1 rest).1 b ((List.mem_cons.1 later).resolve_left other)
  constructor
  · intro found
    exact ⟨List.mem_of_find?_eq_some found, List.find?_some found, first found⟩
  · rintro ⟨mem, kind, least⟩
    cases found : as.find? p with
    | none => exact absurd kind (List.find?_eq_none.1 found a mem)
    | some b =>
      by_cases same : a = b
      · rw [same]
      · have behind := least b (List.mem_of_find?_eq_some found) (List.find?_some found)
          (Ne.symm same)
        exact absurd (first found a mem kind same) (asymm behind)

end Order

/-! ### Repetitions -/

section Repetitions

variable {α : Type} [DecidableEq α]

/-- One more element at the end is a new one, or it was there before. -/
theorem eraseDups_concat (as : List α) (a : α) :
    (as ++ [a]).eraseDups = as.eraseDups ++ if a ∈ as then [] else [a] := by
  rw [List.eraseDups_append, List.removeAll]
  by_cases known : a ∈ as <;> simp [known, List.eraseDups_cons]

/-- A list without repetitions has none to lose. -/
theorem eraseDups_of_nodup {as : List α} (distinct : as.Nodup) : as.eraseDups = as := by
  induction as using List.reverseRecOn with
  | nil => rfl
  | append_singleton as a ih =>
    have fresh : a ∉ as := fun known =>
      (List.nodup_append.1 distinct).2.2 a known a (List.mem_singleton.2 rfl) rfl
    rw [eraseDups_concat, if_neg fresh, ih (List.nodup_append.1 distinct).1]

/-- Erasing repetitions makes no list longer. -/
theorem length_eraseDups_le (as : List α) : as.eraseDups.length ≤ as.length := by
  induction as using List.reverseRecOn with
  | nil => simp
  | append_singleton as a ih =>
    rw [eraseDups_concat]
    split <;> simp <;> omega

/-- Without its repetitions a list is as long as it was only if it has none. -/
theorem length_eraseDups_eq_iff {as : List α} : as.eraseDups.length = as.length ↔ as.Nodup := by
  constructor
  · induction as using List.reverseRecOn with
    | nil => simp
    | append_singleton as a ih =>
      intro same
      have bound := length_eraseDups_le as
      rw [eraseDups_concat] at same
      -- The last element counts only if it is new, so both halves of the equation are tight.
      by_cases known : a ∈ as
      · simp [known] at same
        omega
      · simp [known] at same
        simpa [List.nodup_append, ih same] using fun b mem (hb : b = a) => known (hb ▸ mem)
  · intro distinct
    rw [eraseDups_of_nodup distinct]

end Repetitions

end ShapeSchema
