import ShapeSchema.Proofs.Unicode.CharSet
import ShapeSchema.Unicode.Casing

/-!
# `ShapeSchema.Proofs.Unicode.Casing`: lower case beside ASCII case

Full lower-casing looks at what stands around a character: a capital sigma takes its final form
where a word ends. The case of the ASCII letters around it makes no difference to that, because a
letter is cased and not looked past in either case (`cased_of_isLetter`,
`caseIgnorable_of_isLetter`). So texts that differ in the case of ASCII letters only have the same
lower-case form (`lowercase_eq_of_map_toLower`). In a text that is ASCII throughout, lower-casing is
nothing but that of the single characters (`toList_lowercase_of_ascii`).
-/

set_option autoImplicit false

namespace ShapeSchema.Unicode

open CharSet

/-! ### ASCII letters among the tables -/

variable {c : Nat}

/-- The code point of an ASCII letter. -/
def IsLetter (c : Nat) : Prop := (0x41 ≤ c ∧ c ≤ 0x5A) ∨ (0x61 ≤ c ∧ c ≤ 0x7A)

instance : Decidable (IsLetter c) := inferInstanceAs (Decidable (_ ∨ _))

/-- The range has no ASCII letter in it. -/
def avoidsLetters (r : Nat × Nat) : Bool :=
  r.2 < 0x41 || (0x5A < r.1 && r.2 < 0x61) || 0x7A < r.1

/-- No letter lies in a range that avoids both blocks of letters. -/
theorem not_isLetter_of_avoids {r : Nat × Nat} (avoids : avoidsLetters r = true) (lo : r.1 ≤ c)
    (hi : c ≤ r.2) : ¬ IsLetter c := by
  simp only [avoidsLetters, Bool.or_eq_true, Bool.and_eq_true, decide_eq_true_eq] at avoids
  rw [IsLetter]
  omega

/-- The tables that `caseIgnorable` is made of. -/
def ignorableTables : List (List String) :=
  [CategoryTable.nonspacingMark, CategoryTable.enclosingMark, CategoryTable.format,
    CategoryTable.modifierLetter, CategoryTable.modifierSymbol, PropertyTable.caseIgnorableSign]

set_option maxRecDepth 10000 in
/-- The tables of what casing ignores avoid the letters, range by range. -/
theorem ignorableTables_avoid :
    ∀ table ∈ ignorableTables, (entries table).all avoidsLetters = true := by
  simp only [ignorableTables, List.mem_cons, List.not_mem_nil, or_false, forall_eq_or_imp,
    forall_eq]
  refine ⟨?_, ?_, ?_, ?_, ?_, ?_⟩
  -- Row by row, since reading a long table as a whole takes the kernel much longer.
  all_goals
    repeat refine all_entries_cons (by decide +kernel) ?_
    rfl

/-- Case conversion does not look past an ASCII letter. -/
theorem caseIgnorable_of_isLetter (letter : IsLetter c) : caseIgnorable.contains c = false := by
  rw [Bool.eq_false_iff]
  intro ignored
  have listed : ∃ table ∈ ignorableTables, (ofTable table).contains c = true := by
    rw [caseIgnorable, contains_union, Category.union, contains_unions] at ignored
    rcases ignored with ⟨s, mem, inside⟩ | inside
    · obtain ⟨category, among, rfl⟩ := List.mem_map.1 mem
      refine ⟨category.table, ?_, inside⟩
      simp only [List.mem_cons, List.not_mem_nil, or_false] at among
      rcases among with rfl | rfl | rfl | rfl | rfl
      all_goals simp [ignorableTables, Category.table]
    · exact ⟨_, by simp [ignorableTables], inside⟩
  -- No range of these tables has a letter in it.
  obtain ⟨table, mem, inside⟩ := listed
  obtain ⟨r, entry, lo, hi⟩ := contains_ofTable.1 inside
  exact not_isLetter_of_avoids (List.all_eq_true.1 (ignorableTables_avoid table mem) r entry) lo hi
    letter

/-- An ASCII letter has a case. -/
theorem cased_of_isLetter (letter : IsLetter c) : cased.contains c = true := by
  rw [cased, contains_unions]
  rcases letter with upper | lower
  · refine ⟨uppercaseChars, by simp, contains_union.2 (.inl (contains_ofTable.2 ?_))⟩
    exact ⟨(0x41, 0x5A), by decide +kernel, upper⟩
  · refine ⟨lowercaseChars, by simp, contains_union.2 (.inl (contains_ofTable.2 ?_))⟩
    exact ⟨(0x61, 0x7A), by decide +kernel, lower⟩

/-! ### Characters that differ in ASCII case -/

/-- A capital letter is moved up by 32 code points, and nothing else is moved. -/
theorem toNat_toLower (c : Char) :
    c.toLower.toNat = if 0x41 ≤ c.toNat ∧ c.toNat ≤ 0x5A then c.toNat + 0x20 else c.toNat := by
  have codes : (c.val ≥ 'A'.val ∧ c.val ≤ 'Z'.val) ↔ (0x41 ≤ c.toNat ∧ c.toNat ≤ 0x5A) := Iff.rfl
  unfold Char.toLower
  split
  · rename_i upper
    have bounds := codes.1 upper
    rw [if_pos bounds]
    show (c.val + ('a'.val - 'A'.val)).toNat = _
    rw [UInt32.toNat_add]
    show (c.toNat + 0x20) % 2 ^ 32 = _
    omega
  · rename_i other
    rw [if_neg (mt codes.2 other)]

/-- Lowering twice lowers no further. -/
theorem toLower_toLower (c : Char) : c.toLower.toLower = c.toLower := by
  apply Char.toNat_inj.1
  rw [toNat_toLower, toNat_toLower]
  split
  · rw [if_neg (by omega)]
  · rfl

/-- Characters with the same ASCII lower case are the same, or both are ASCII letters. -/
theorem eq_or_isLetter_of_toLower {c d : Char} (same : c.toLower = d.toLower) :
    c = d ∨ (IsLetter c.toNat ∧ IsLetter d.toNat) := by
  have codes := congrArg Char.toNat same
  rw [toNat_toLower, toNat_toLower] at codes
  by_cases equal : c.toNat = d.toNat
  · exact .inl (Char.toNat_inj.1 equal)
  · right
    rw [IsLetter, IsLetter]
    split at codes <;> split at codes <;> omega

/-- The lower case of an ASCII letter is its ASCII lower case. -/
theorem lowercaseChar_of_isLetter {c : Char} (letter : IsLetter c.toNat) :
    lowercaseChar c = [c.toLower] := by
  rw [lowercaseChar, if_pos]
  rw [IsLetter] at letter
  omega

/-! ### Texts that differ in ASCII case -/

/-- The next character decides whether a cased one is ahead, unless casing ignores it. -/
theorem casedAhead_cons (c : Char) (cs : List Char) :
    casedAhead (c :: cs) =
      if caseIgnorable.contains c.toNat then casedAhead cs else cased.contains c.toNat := by
  rw [casedAhead, List.dropWhile_cons]
  by_cases ignored : caseIgnorable.contains c.toNat = true
  · rw [if_pos ignored, if_pos ignored]
    rfl
  · rw [if_neg ignored, if_neg ignored]

/-- The ASCII case of what is ahead does not tell whether a cased character comes first. -/
theorem casedAhead_eq {cs ds : List Char} (same : cs.map Char.toLower = ds.map Char.toLower) :
    casedAhead cs = casedAhead ds := by
  induction cs generalizing ds with
  | nil =>
    rw [List.map_nil, eq_comm, List.map_eq_nil_iff] at same
    rw [same]
  | cons c cs ih =>
    obtain ⟨d, ds, rfl, head, tail⟩ := List.map_eq_cons_iff.1 same.symm
    rw [casedAhead_cons, casedAhead_cons, ih tail.symm]
    rcases eq_or_isLetter_of_toLower head with rfl | ⟨letter, letter'⟩
    · rfl
    · rw [caseIgnorable_of_isLetter letter, caseIgnorable_of_isLetter letter',
        cased_of_isLetter letter, cased_of_isLetter letter']

/-- Lower-casing gives the same characters from there on, in whatever ASCII case the text is and
what is behind it: by induction on the text, of which one character after the other is passed. -/
theorem lowercaseFrom_eq {cs ds : List Char} (same : cs.map Char.toLower = ds.map Char.toLower) :
    ∀ {passed passed' : List Char}, passed.map Char.toLower = passed'.map Char.toLower →
      lowercaseFrom passed cs = lowercaseFrom passed' ds := by
  -- On the characters, with what was passed: a final sigma looks in both directions.
  induction cs generalizing ds with
  | nil =>
    intro _ _ _
    rw [List.map_nil, eq_comm, List.map_eq_nil_iff] at same
    rw [same, lowercaseFrom, lowercaseFrom]
  | cons c cs ih =>
    intro passed passed' behind
    obtain ⟨d, ds, rfl, head, tail⟩ := List.map_eq_cons_iff.1 same.symm
    have further : (c :: passed).map Char.toLower = (d :: passed').map Char.toLower := by
      rw [List.map_cons, List.map_cons, head, behind]
    have rest := ih tail.symm further
    rw [lowercaseFrom, lowercaseFrom, rest, casedAhead_eq behind, casedAhead_eq tail.symm]
    rcases eq_or_isLetter_of_toLower head with rfl | ⟨letter, letter'⟩
    · rfl
    · -- A letter is no sigma, and its lower case does not depend on what is around it.
      have other {a : Char} (letter : IsLetter a.toNat) : a ≠ 'Σ' := by
        rintro rfl
        exact absurd letter (by decide)
      rw [if_neg (other letter), if_neg (other letter'), lowercaseChar_of_isLetter letter,
        lowercaseChar_of_isLetter letter', head]

/-- Texts that differ in the case of ASCII letters only have the same lower-case form. -/
theorem lowercase_eq_of_map_toLower {s t : String}
    (same : s.map Char.toLower = t.map Char.toLower) : lowercase s = lowercase t := by
  have characters := congrArg String.toList same
  rw [String.toList_map, String.toList_map] at characters
  rw [lowercase, lowercase, lowercaseFrom_eq characters rfl]

/-- In ASCII, lower-casing is that of the single characters. -/
theorem lowercaseFrom_of_ascii {cs : List Char} (ascii : ∀ c ∈ cs, c.toNat < 0x80) :
    ∀ passed : List Char, lowercaseFrom passed cs = cs.map Char.toLower := by
  induction cs with
  | nil => exact fun _ => rfl
  | cons c cs ih =>
    intro passed
    obtain ⟨head, tail⟩ := List.forall_mem_cons.1 ascii
    have other : c ≠ 'Σ' := by
      rintro rfl
      exact absurd head (by decide)
    rw [lowercaseFrom, ih tail, if_neg other, lowercaseChar, if_pos head]
    rfl

/-- In an ASCII text every character is lowered on its own. -/
theorem toList_lowercase_of_ascii {s : String} (ascii : ∀ c ∈ s.toList, c.toNat < 0x80) :
    (lowercase s).toList = s.toList.map Char.toLower := by
  rw [lowercase, String.toList_ofList, lowercaseFrom_of_ascii ascii]

end ShapeSchema.Unicode
