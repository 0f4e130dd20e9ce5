import ShapeSchema.Json.Pointer

/-!
# `ShapeSchema.Proofs.Json.Pointer`: a written pointer leads to the same place

Escaping leaves no slash in a segment, so the slashes of a written pointer are exactly those that
start a segment, and reading takes it apart where writing put it together (`parse?_render`). A
segment that names a position in an array is its decimal text (`index?_toString`).
-/

set_option autoImplicit false

namespace ShapeSchema.Json.Pointer

/-! ### Segments -/

/-- A character other than the tilde stands for itself. -/
theorem unescapeChars_cons {c : Char} (plain : c ≠ '~') (rest : List Char) :
    unescapeChars (c :: rest) = c :: unescapeChars rest := by
  rw [unescapeChars]
  · intro _ same
    exact absurd same plain
  · intro _ same
    exact absurd same plain

/-- Reading an escaped segment gives the segment back. -/
theorem unescapeChars_escape (cs : List Char) : unescapeChars (cs.flatMap escapeChar) = cs := by
  induction cs with
  | nil => rfl
  | cons c cs ih =>
    rw [List.flatMap_cons]
    -- Two characters are escaped, and each escape reads back as its character.
    by_cases tilde : c = '~'
    · subst tilde
      show '~' :: unescapeChars (cs.flatMap escapeChar) = _
      rw [ih]
    · by_cases slash : c = '/'
      · subst slash
        show '/' :: unescapeChars (cs.flatMap escapeChar) = _
        rw [ih]
      · rw [escapeChar, if_neg tilde, if_neg slash, List.singleton_append, unescapeChars_cons tilde,
          ih]

/-- An escaped segment has no slash in it. -/
theorem slash_notMem_escape (cs : List Char) : '/' ∉ cs.flatMap escapeChar := by
  intro h
  obtain ⟨c, -, hc⟩ := List.mem_flatMap.1 h
  rw [escapeChar] at hc
  split at hc
  · simp at hc
  · split at hc
    · simp at hc
    · rename_i slash
      exact slash (List.mem_singleton.1 hc).symm

/-- Without a slash there is one segment. -/
theorem segments_of_notMem {cs : List Char} (h : '/' ∉ cs) (acc : List Char) :
    segments acc cs = [acc.reverse ++ cs] := by
  induction cs generalizing acc with
  | nil => rw [segments, List.append_nil]
  | cons c cs ih =>
    rw [List.mem_cons, not_or] at h
    rw [segments, if_neg (Ne.symm h.1), ih h.2, List.reverse_cons, List.append_assoc,
      List.singleton_append]

/-- The first slash ends the first segment. -/
theorem segments_append_slash {cs : List Char} (h : '/' ∉ cs) (acc rest : List Char) :
    segments acc (cs ++ '/' :: rest) = (acc.reverse ++ cs) :: segments [] rest := by
  induction cs generalizing acc with
  | nil => rw [List.nil_append, segments, if_pos rfl, List.append_nil]
  | cons c cs ih =>
    rw [List.mem_cons, not_or] at h
    rw [List.cons_append, segments, if_neg (Ne.symm h.1), ih h.2, List.reverse_cons,
      List.append_assoc, List.singleton_append]

/-! ### Whole pointers -/

/-- A pointer is written segment by segment, each behind a slash. -/
theorem toList_render_cons (segment : String) (p : Pointer) :
    (render (segment :: p)).toList =
      '/' :: (segment.toList.flatMap escapeChar ++ (render p).toList) := by
  have escaped : (escape segment).toList = segment.toList.flatMap escapeChar :=
    String.toList_ofList
  rw [render, List.map_cons, String.join_cons, String.toList_append, String.toList_append, escaped]
  rfl

/-- The segments of a written pointer, behind its first slash. -/
theorem segments_render (segment : String) (p : Pointer) :
    segments [] (segment.toList.flatMap escapeChar ++ (render p).toList) =
      (segment :: p).map fun s => s.toList.flatMap escapeChar := by
  induction p generalizing segment with
  | nil =>
    rw [show (render []).toList = [] from rfl, List.append_nil,
      segments_of_notMem (slash_notMem_escape _)]
    rfl
  | cons next p ih =>
    rw [toList_render_cons, segments_append_slash (slash_notMem_escape _), ih]
    rfl

/-- A pointer that was written is read back. -/
theorem parse?_render (p : Pointer) : parse? (render p) = some p := by
  cases p with
  | nil => rfl
  | cons segment p =>
    -- Splitting at slashes gives the escaped segments, each of which is read back.
    have read : ∀ s ∈ segment :: p,
        String.ofList (unescapeChars (s.toList.flatMap escapeChar)) = s := by
      intro s _
      rw [unescapeChars_escape, String.ofList_toList]
    rw [parse?, toList_render_cons]
    show some (List.map _ (segments [] _)) = _
    rw [segments_render, List.map_map]
    exact congrArg some ((List.map_congr_left read).trans (List.map_id _))

/-- A pointer is followed segment by segment. -/
theorem resolve?_append (p q : Pointer) (value : Json) :
    resolve? (p ++ q) value = (resolve? p value).bind (resolve? q) :=
  List.foldlM_append

/-! ### Positions -/

/-- A number other than zero is written without a zero in front. -/
theorem head?_toDigits {n : Nat} (positive : 0 < n) : (Nat.toDigits 10 n).head? ≠ some '0' := by
  induction n using Nat.strongRecOn with
  | ind n ih =>
    rw [Nat.toDigits_eq_if (by omega)]
    split
    · rename_i small
      have digits : ∀ d < 10, 0 < d → Nat.digitChar d ≠ '0' := by decide
      intro zero
      exact digits n small positive (Option.some.inj zero)
    · -- The digits of a larger number begin with those of its tenth.
      rename_i large
      have front := ih (n / 10) (by omega) (by omega)
      have nonempty : Nat.toDigits 10 (n / 10) ≠ [] := Nat.toDigits_ne_nil
      obtain ⟨c, rest, written⟩ := List.exists_cons_of_ne_nil nonempty
      rw [written] at front ⊢
      exact front

/-- The text of a position names that position. -/
theorem index?_toString (n : Nat) : index? (toString n) = some n := by
  have digits : (toString n).toList = Nat.toDigits 10 n := by
    rw [Nat.toString_eq_ofList_toDigits, String.toList_ofList]
  rw [index?, digits]
  -- Zero is the one number whose digits may begin with a zero.
  rcases Nat.eq_zero_or_pos n with rfl | positive
  · rfl
  · have front := head?_toDigits positive
    have read : Nat.ofDigitChars 10 (Nat.toDigits 10 n) 0 = n := Nat.ofDigitChars_ten_toDigits
    have all : (Nat.toDigits 10 n).all Char.isDigit = true :=
      List.all_eq_true.2 fun c hc => Nat.isDigit_of_mem_toDigits (by omega) (by omega) hc
    rw [Nat.ofDigitChars_eq_foldl] at read
    simp only [Nat.mul_comm 10] at read
    cases written : Nat.toDigits 10 n with
    | nil => exact absurd written Nat.toDigits_ne_nil
    | cons c rest =>
      rw [written] at front read all
      have nonzero : c ≠ '0' := fun zero => front (congrArg some zero)
      split
      · contradiction
      · rename_i same
        cases same
        exact absurd rfl nonzero
      · rename_i same
        cases same
        have number : (c != '0' && (c :: rest).all Char.isDigit) = true := by
          rw [all, Bool.and_true, bne_iff_ne]
          exact nonzero
        rw [if_pos number, read]

end ShapeSchema.Json.Pointer
