/-!
# `ShapeSchema.Proofs.Except`: computations that may fail

What a successful computation says about its steps, and what is left of a computation when the text
of its error is put aside. `Except.toOption` passes through sequencing, mapping and the traversal of
a list, so two computations that differ in their errors only are compared step by step.
-/

set_option autoImplicit false

namespace ShapeSchema

section Success

variable {ε α β : Type}

/-- A sequence whose first step succeeds goes on with the second. -/
@[simp] theorem except_ok_bind (a : α) (f : α → Except ε β) : (Except.ok a >>= f) = f a := rfl

/-- A sequence succeeds exactly if each of its steps does in turn. -/
theorem except_bind_eq_ok_iff {x : Except ε α} {f : α → Except ε β} {b : β} :
    x >>= f = .ok b ↔ ∃ a, x = .ok a ∧ f a = .ok b := by
  cases x with
  | error e => exact ⟨fun h => (nomatch h), fun ⟨_, h, _⟩ => (nomatch h)⟩
  | ok a => exact ⟨fun h => ⟨a, rfl, h⟩, fun ⟨_, h, last⟩ => Except.ok.inj h ▸ last⟩

/-- A computation that succeeds has succeeded at its first step. -/
theorem except_bind_ok {x : Except ε α} {f : α → Except ε β} {b : β} (h : x >>= f = .ok b) :
    ∃ a, x = .ok a ∧ f a = .ok b :=
  except_bind_eq_ok_iff.1 h

/-- A computation whose second step cannot fail succeeds exactly if its first step does. -/
theorem exists_bind_ok_iff {x : Except ε α} {f : α → Except ε β} (total : ∀ a, ∃ b, f a = .ok b) :
    (∃ b, x >>= f = .ok b) ↔ ∃ a, x = .ok a := by
  constructor
  · rintro ⟨b, h⟩
    obtain ⟨a, first, -⟩ := except_bind_ok h
    exact ⟨a, first⟩
  · rintro ⟨a, rfl⟩
    exact total a

/-- A renamed error changes no success. -/
theorem mapError_eq_ok_iff {ε' : Type} {x : Except ε α} {f : ε → ε'} {a : α} :
    x.mapError f = .ok a ↔ x = .ok a := by
  cases x with
  | error e => constructor <;> intro h <;> cases h
  | ok b => constructor <;> intro h <;> cases h <;> rfl

/-- Whether a computation succeeds can be evaluated. -/
theorem isOk_iff_exists {x : Except ε α} : x.isOk = true ↔ ∃ a, x = .ok a := by
  cases x with
  | error e => exact ⟨fun h => (nomatch h), fun ⟨_, h⟩ => (nomatch h)⟩
  | ok a => exact ⟨fun _ => ⟨a, rfl⟩, fun _ => rfl⟩

/-- With errors put aside, an answer is there exactly if the computation succeeds with it. -/
theorem toOption_eq_some_iff {x : Except ε α} {a : α} : x.toOption = some a ↔ x = .ok a := by
  cases x <;> simp [Except.toOption]

end Success

/-! ### Errors put aside -/

section Answer

variable {ε ε' α β : Type}

/-- A success is an answer. -/
@[simp] theorem toOption_ok (a : α) : (Except.ok a : Except ε α).toOption = some a := rfl

/-- An error leaves no answer. -/
@[simp] theorem toOption_error (e : ε) : (Except.error e : Except ε α).toOption = none := rfl

/-- What is answered right away is an answer. -/
@[simp] theorem toOption_pure (a : α) : (pure a : Except ε α).toOption = some a := rfl

/-- What is thrown leaves no answer. -/
@[simp] theorem toOption_throw (e : ε) : (throw e : Except ε α).toOption = none := rfl

/-- A renamed error changes no answer. -/
@[simp] theorem toOption_mapError (x : Except ε α) (f : ε → ε') :
    (x.mapError f).toOption = x.toOption := by
  cases x <;> rfl

/-- The answer of a mapped computation is the mapped answer. -/
@[simp] theorem toOption_map (x : Except ε α) (f : α → β) :
    (x.map f).toOption = x.toOption.map f := by
  cases x <;> rfl

/-- The same of `<$>`, the form that `do` blocks leave behind. -/
@[simp] theorem toOption_functor_map (x : Except ε α) (f : α → β) :
    (f <$> x).toOption = x.toOption.map f := by
  cases x <;> rfl

/-- The answer of a sequence is the sequence of the answers. -/
@[simp] theorem toOption_bind (x : Except ε α) (f : α → Except ε β) :
    (x >>= f).toOption = x.toOption.bind fun a => (f a).toOption := by
  cases x <;> rfl

/-- The answers along a list are there exactly if every one of them is. -/
@[simp] theorem toOption_mapM (f : α → Except ε β) (xs : List α) :
    (xs.mapM f).toOption = xs.mapM fun a => (f a).toOption := by
  induction xs with
  | nil => rfl
  | cons x xs ih =>
    rw [List.mapM_cons, List.mapM_cons, toOption_bind]
    refine congrArg _ (funext fun y => ?_)
    rw [toOption_bind, ih]
    rfl

end Answer

/-! ### Answers that correspond -/

section Related

variable {α α' β β' : Type} {R : α → α' → Prop} {S : β → β' → Prop}

/-- Corresponding computations go on to corresponding computations. -/
theorem rel_bind {o : Option α} {o' : Option α'} (h : Option.Rel R o o') {f : α → Option β}
    {f' : α' → Option β'} (next : ∀ a a', R a a' → Option.Rel S (f a) (f' a')) :
    Option.Rel S (o.bind f) (o'.bind f') := by
  cases h with
  | some related => exact next _ _ related
  | none => exact .none

/-- What corresponds is what was answered. -/
theorem rel_answers {o : Option α} {o' : Option α'} (h : Option.Rel R o o') :
    Option.Rel (fun a a' => o = some a ∧ o' = some a' ∧ R a a') o o' := by
  cases h with
  | some related => exact .some ⟨rfl, rfl, related⟩
  | none => exact .none

/-- Answers that correspond do so in every weaker sense as well. -/
theorem rel_imp {T : α → α' → Prop} (weaker : ∀ a a', R a a' → T a a') {o : Option α}
    {o' : Option α'} (h : Option.Rel R o o') : Option.Rel T o o' := by
  cases h with
  | some related => exact .some (weaker _ _ related)
  | none => exact .none

/-- Corresponding answers are mapped to corresponding answers. -/
theorem rel_map {o : Option α} {o' : Option α'} (h : Option.Rel R o o') {f : α → β} {f' : α' → β'}
    (next : ∀ a a', R a a' → S (f a) (f' a')) : Option.Rel S (o.map f) (o'.map f') := by
  cases h with
  | some related => exact .some (next _ _ related)
  | none => exact .none

/-- Equal answers correspond in every reflexive sense. -/
theorem rel_of_eq {R : α → α → Prop} (refl : ∀ a, R a a) {o o' : Option α} (h : o = o') :
    Option.Rel R o o' := by
  subst h
  cases o with
  | none => exact .none
  | some a => exact .some (refl a)

end Related

end ShapeSchema
