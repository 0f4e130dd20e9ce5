import ShapeSchema.Unicode.CharSet

/-!
# `ShapeSchema.Proofs.Unicode.CharSet`: what a set of ranges contains

Sets are kept as lists of ranges that are sorted and joined whenever a set is made. None of that
changes which code points are in a set: it is those of the ranges that the set was made of
(`contains_ofRanges`), so whether a table has a character in it can be read off the rows of the
table, one by one (`all_entries_cons`).
-/

set_option autoImplicit false

namespace ShapeSchema.CharSet

variable {c : Nat}

/-- A set contains the code points of its ranges. -/
theorem contains_iff {s : CharSet} :
    s.contains c = true ↔ ∃ r ∈ s.ranges, r.1 ≤ c ∧ c ≤ r.2 := by
  simp only [contains, List.any_eq_true, decide_eq_true_eq]

/-- Joining ascending ranges keeps their code points: by induction on the ranges, two of which
become one at a time. -/
theorem contains_join {ranges : List (Nat × Nat)}
    (ascending : ranges.Pairwise fun a b => a.1 ≤ b.1) :
    (⟨join ranges⟩ : CharSet).contains c = true ↔ ∃ r ∈ ranges, r.1 ≤ c ∧ c ≤ r.2 := by
  fun_induction join ranges with
  | case1 => simp [contains]
  | case2 r => simp [contains]
  | case3 r s rest touch ih =>
    obtain ⟨first, others⟩ := List.pairwise_cons.1 ascending
    obtain ⟨second, later⟩ := List.pairwise_cons.1 others
    have le : r.1 ≤ s.1 := first s List.mem_cons_self
    have both : (r.1 ≤ c ∧ c ≤ max r.2 s.2) ↔ (r.1 ≤ c ∧ c ≤ r.2) ∨ (s.1 ≤ c ∧ c ≤ s.2) := by
      -- A gap between the two would have kept them apart.
      omega
    rw [ih (List.pairwise_cons.2
      ⟨fun t mem => first t (List.mem_cons_of_mem _ mem), later⟩)]
    simp only [List.mem_cons, or_and_right, exists_or, exists_eq_left, both, or_assoc]
  | case4 r s rest apart ih =>
    have later := (List.pairwise_cons.1 ascending).2
    rw [contains_iff] at ih ⊢
    simp only [List.mem_cons, or_and_right, exists_or, exists_eq_left] at ih ⊢
    rw [ih later]

/-- A set that is made of ranges contains what is in the ranges. -/
theorem contains_ofRanges {ranges : List (Nat × Nat)} :
    (ofRanges ranges).contains c = true ↔ ∃ r ∈ ranges, r.1 ≤ c ∧ c ≤ r.2 := by
  have ascending : (ranges.mergeSort fun a b => a.1 < b.1 || (a.1 == b.1 && a.2 ≤ b.2)).Pairwise
      fun a b => a.1 ≤ b.1 := by
    refine (List.pairwise_mergeSort ?_ ?_ ranges).imp ?_
    · intro a b d
      simp
      omega
    · intro a b
      simp
      omega
    · intro a b
      simp
      omega
  rw [ofRanges, contains_join ascending]
  simp only [(List.mergeSort_perm _ _).mem_iff]

/-- A union contains what either set does. -/
theorem contains_union {s t : CharSet} :
    (s.union t).contains c = true ↔ s.contains c = true ∨ t.contains c = true := by
  rw [union, contains_ofRanges, contains_iff, contains_iff]
  simp only [List.mem_append, or_and_right, exists_or]

/-- The union of some sets contains what one of them does. -/
theorem contains_unions {sets : List CharSet} :
    (unions sets).contains c = true ↔ ∃ s ∈ sets, s.contains c = true := by
  rw [unions, contains_ofRanges]
  simp only [List.mem_flatMap, contains_iff]
  constructor
  · rintro ⟨r, ⟨s, inside, mem⟩, within⟩
    exact ⟨s, inside, r, mem, within⟩
  · rintro ⟨s, inside, r, mem, within⟩
    exact ⟨r, ⟨s, inside, mem⟩, within⟩

/-- The set of a table contains the code points of the table's ranges. -/
theorem contains_ofTable {table : List String} :
    (ofTable table).contains c = true ↔ ∃ r ∈ entries table, r.1 ≤ c ∧ c ≤ r.2 :=
  contains_ofRanges

/-- What is true of the entries of a row and of those of the rows after it is true of all. -/
theorem all_entries_cons {p : Nat × Nat → Bool} {row : List Char} {rows : List String}
    (first : ((words [] row).map ofEntry).all p = true) (rest : (entries rows).all p = true) :
    (entries (String.ofList row :: rows)).all p = true := by
  rw [entries, List.flatMap_cons, List.all_append, String.toList_ofList, first, Bool.true_and]
  exact rest

end ShapeSchema.CharSet
