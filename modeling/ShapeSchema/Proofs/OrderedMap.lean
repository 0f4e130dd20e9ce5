import ShapeSchema.OrderedMap
import ShapeSchema.Proofs.Lists

/-!
# `ShapeSchema.Proofs.OrderedMap`: look-up and entries agree

The keys of an ordered map are distinct, so looking a key up and finding its entry are the same
thing (`OrderedMap.get?_eq_some_iff`). Inserting an unknown key only appends
(`OrderedMap.entries_insert`), and what is appended never hides what was there
(`List.lookup_append`). The proofs about tables that grow rest on these three.
-/

set_option autoImplicit false

namespace ShapeSchema

namespace Entries

variable {α : Type}

/-- Look-up passes over an entry with another key. -/
theorem lookup_cons (key : String) (e : String × α) (entries : List (String × α)) :
    (e :: entries).lookup key = if e.1 = key then some e.2 else entries.lookup key := by
  rw [List.lookup_cons]
  by_cases same : e.1 = key
  · rw [if_pos same, same, beq_self_eq_true]
  · rw [if_neg same, beq_eq_false_iff_ne.2 (Ne.symm same)]

/-- A look-up passes over an entry with another key. -/
theorem lookup_cons_ne {key : String} {e : String × α} (entries : List (String × α))
    (other : e.1 ≠ key) : (e :: entries).lookup key = entries.lookup key := by
  rw [lookup_cons, if_neg other]

/-- A key without an entry is not found. -/
theorem lookup_eq_none_iff {key : String} {entries : List (String × α)} :
    entries.lookup key = none ↔ key ∉ entries.map Prod.fst := by
  rw [List.lookup_eq_none_iff, List.mem_map, not_exists]
  refine forall_congr' fun e => ?_
  rw [bne_iff_ne, not_and]
  exact forall_congr' fun _ => ne_comm

/-- What is found has an entry. -/
theorem mem_of_lookup {key : String} {value : α} {entries : List (String × α)}
    (h : entries.lookup key = some value) : (key, value) ∈ entries := by
  obtain ⟨before, after, rfl, -⟩ := List.lookup_eq_some_iff.1 h
  exact List.mem_append_right _ List.mem_cons_self

/-- Where keys are distinct, every entry is found. -/
theorem lookup_of_mem {key : String} {value : α} {entries : List (String × α)}
    (distinct : (entries.map Prod.fst).Nodup) (h : (key, value) ∈ entries) :
    entries.lookup key = some value := by
  obtain ⟨before, after, rfl⟩ := List.append_of_mem h
  rw [List.map_append, List.nodup_append] at distinct
  refine List.lookup_eq_some_iff.2 ⟨before, after, rfl, fun e mem => ?_⟩
  -- An entry with the key before this one would have its key twice.
  rw [bne_iff_ne]
  exact (distinct.2.2 e.1 (List.mem_map_of_mem mem) key (by simp)).symm

/-- Inserting an unknown key appends its entry. -/
theorem insert_of_lookup_eq_none {key : String} (value : α) {entries : List (String × α)}
    (h : entries.lookup key = none) : insert key value entries = entries ++ [(key, value)] := by
  induction entries with
  | nil => rfl
  | cons e entries ih =>
    rw [lookup_cons] at h
    split at h
    · cases h
    · rename_i hkey
      rw [insert, if_neg hkey, ih h, List.cons_append]

/-- Where keys are distinct, at most one entry has a given key: the one that look-up finds. -/
theorem filter_key {key : String} {p : α → Bool} {entries : List (String × α)}
    (distinct : (entries.map Prod.fst).Nodup) :
    entries.filter (fun e => e.1 == key && p e.2) =
      match entries.lookup key with
      | some value => if p value then [(key, value)] else []
      | none => [] := by
  induction entries with
  | nil => rfl
  | cons e entries ih =>
    rw [List.map_cons, List.nodup_cons] at distinct
    rw [List.filter_cons, lookup_cons, ih distinct.2]
    by_cases same : e.1 = key
    · -- The entry has the key, so no later one has.
      have absent : entries.lookup key = none := lookup_eq_none_iff.2 (same ▸ distinct.1)
      rw [absent, if_pos same, beq_iff_eq.2 same, Bool.true_and, ← same]
    · rw [if_neg same, beq_eq_false_iff_ne.2 same, Bool.false_and]
      rfl

/-- An insertion gives its key the value, and no other key. -/
theorem lookup_insert (key other : String) (value : α) (entries : List (String × α)) :
    List.lookup other (insert key value entries) =
      if key = other then some value else entries.lookup other := by
  induction entries with
  | nil => rw [insert, lookup_cons]
  | cons e entries ih =>
    obtain ⟨k, v⟩ := e
    -- On the entries: the key is replaced where it is, or put behind the last entry.
    by_cases same : k = key
    · subst same
      rw [insert, if_pos rfl, lookup_cons, lookup_cons]
      split <;> rfl
    · rw [insert, if_neg same, lookup_cons, lookup_cons, ih]
      by_cases found : k = other
      · have apart : key ≠ other := fun h => same (found.trans h.symm)
        simp [found, apart]
      · simp [found]

/-- Of several insertions with one key the last one counts. -/
theorem lookup_foldl_insert (key : String) (entries start : List (String × α)) :
    List.lookup key (entries.foldl (fun acc e => insert e.1 e.2 acc) start) =
      (entries.reverse.lookup key).or (start.lookup key) := by
  induction entries generalizing start with
  | nil => rfl
  | cons e entries ih =>
    rw [List.foldl_cons, ih, lookup_insert, List.reverse_cons, List.lookup_append, lookup_cons,
      Option.or_assoc]
    split <;> simp

/-- A key stands where it was first inserted, behind those that were there from the start. -/
theorem keys_foldl_insert (entries : List (String × α)) {start : List (String × α)}
    (distinct : (start.map Prod.fst).Nodup) :
    (entries.foldl (fun acc e => insert e.1 e.2 acc) start).map Prod.fst =
      (start.map Prod.fst ++ entries.map Prod.fst).eraseDups := by
  induction entries generalizing start with
  | nil => simp [eraseDups_of_nodup distinct]
  | cons e entries ih =>
    rw [List.foldl_cons, ih (nodup_insert e.1 e.2 distinct), keys_insert]
    split
    · rename_i known
      simp [List.eraseDups_append, List.removeAll, known]
    · simp

/-- The keys of a collection, each at its first entry. -/
theorem keys_collect (entries : List (String × α)) :
    (collect entries).map Prod.fst = (entries.map Prod.fst).eraseDups := by
  have empty : (([] : List (String × α)).map Prod.fst).Nodup := List.nodup_nil
  rw [collect, keys_foldl_insert entries empty]
  rfl

/-- The value of a key in a collection is that of its last entry. -/
theorem lookup_collect (key : String) (entries : List (String × α)) :
    List.lookup key (collect entries) = entries.reverse.lookup key := by
  rw [collect, lookup_foldl_insert, List.lookup_nil, Option.or_none]

/-- Where keys are distinct, the order of entries makes no difference to look-up. -/
theorem lookup_reverse {key : String} {entries : List (String × α)}
    (distinct : (entries.map Prod.fst).Nodup) :
    entries.reverse.lookup key = entries.lookup key := by
  have distinct' : (entries.reverse.map Prod.fst).Nodup :=
    ((entries.reverse_perm.map Prod.fst).nodup_iff).2 distinct
  cases found : entries.lookup key with
  | none =>
    rw [lookup_eq_none_iff] at found ⊢
    simpa using found
  | some value => exact lookup_of_mem distinct' (List.mem_reverse.2 (mem_of_lookup found))

/-- Entries with distinct keys are collected as they stand. -/
theorem collect_eq_self {entries : List (String × α)}
    (distinct : (entries.map Prod.fst).Nodup) : collect entries = entries := by
  -- The entries already taken are part of the induction: none of them has a key that is to come.
  have go : ∀ (rest taken : List (String × α)), ((taken ++ rest).map Prod.fst).Nodup →
      rest.foldl (fun acc e => insert e.1 e.2 acc) taken = taken ++ rest := by
    intro rest
    induction rest with
    | nil => simp
    | cons e rest ih =>
      intro taken distinct
      have unknown : taken.lookup e.1 = none := by
        rw [lookup_eq_none_iff]
        intro known
        rw [List.map_append, List.nodup_append] at distinct
        exact distinct.2.2 _ known _ (by simp) rfl
      have joined : taken ++ [(e.1, e.2)] ++ rest = taken ++ e :: rest := by simp
      rw [List.foldl_cons, insert_of_lookup_eq_none e.2 unknown, ih _ (by rwa [joined]),
        joined]
  exact go entries [] distinct

/-- A collection has as many entries as were collected only if their keys are distinct. -/
theorem length_collect_eq_iff {entries : List (String × α)} :
    (collect entries).length = entries.length ↔ (entries.map Prod.fst).Nodup := by
  have length := congrArg List.length (keys_collect entries)
  rw [List.length_map] at length
  rw [length, ← length_eraseDups_eq_iff, List.length_map]

/-- Only entries with distinct keys are collected as they stand. -/
theorem collect_eq_self_iff {entries : List (String × α)} :
    collect entries = entries ↔ (entries.map Prod.fst).Nodup :=
  ⟨fun same => length_collect_eq_iff.1 (by rw [same]), collect_eq_self⟩

end Entries

namespace OrderedMap

variable {α : Type}

/-- Maps with the same entries are the same: distinctness is a proof. -/
theorem ext {m m' : OrderedMap α} (h : m.entries = m'.entries) : m = m' := by
  cases m
  cases m'
  cases h
  rfl

/-- A key has a value exactly if the two are an entry. -/
theorem get?_eq_some_iff {m : OrderedMap α} {key : String} {value : α} :
    m.get? key = some value ↔ (key, value) ∈ m.entries :=
  ⟨Entries.mem_of_lookup, Entries.lookup_of_mem m.distinct⟩

/-- A key without a value is not among the keys. -/
theorem get?_eq_none_iff {m : OrderedMap α} {key : String} : m.get? key = none ↔ key ∉ m.keys :=
  Entries.lookup_eq_none_iff

/-- An unknown key is appended. -/
theorem entries_insert {m : OrderedMap α} {key : String} (value : α) (h : m.get? key = none) :
    (m.insert key value).entries = m.entries ++ [(key, value)] :=
  Entries.insert_of_lookup_eq_none value h

/-- A key that was just inserted has the value it was given. -/
theorem get?_insert_self {m : OrderedMap α} {key : String} (value : α) (h : m.get? key = none) :
    (m.insert key value).get? key = some value := by
  rw [get?_eq_some_iff, entries_insert value h]
  simp

/-- What is appended to a map hides nothing in it. -/
theorem get?_of_append {m m' : OrderedMap α} {added : List (String × α)}
    (h : m'.entries = m.entries ++ added) {key : String} {value : α}
    (found : m.get? key = some value) : m'.get? key = some value := by
  rw [get?_eq_some_iff] at found ⊢
  rw [h]
  exact List.mem_append_left _ found

/-- Keys that are appended to a map were unknown to it. -/
theorem get?_eq_none_of_append {m m' : OrderedMap α} {added : List (String × α)}
    (h : m'.entries = m.entries ++ added) {e : String × α} (new : e ∈ added) :
    m.get? e.1 = none := by
  have distinct := m'.distinct
  rw [h, List.map_append, List.nodup_append] at distinct
  rw [get?, Entries.lookup_eq_none_iff]
  intro known
  exact distinct.2.2 _ known _ (List.mem_map_of_mem new) rfl

/-- The entries of a map that a list of entries was inserted into are those entries inserted one by
one. -/
theorem entries_foldl_insert (entries : List (String × α)) (m : OrderedMap α) :
    (entries.foldl (fun m e => m.insert e.1 e.2) m).entries =
      entries.foldl (fun acc e => Entries.insert e.1 e.2 acc) m.entries := by
  induction entries generalizing m with
  | nil => rfl
  | cons e entries ih => exact ih (m.insert e.1 e.2)

/-- Entries with distinct keys that are inserted into a map: known keys stay where they are, and
unknown ones come after them. -/
theorem keys_foldl_insert {entries : List (String × α)} (distinct : (entries.map Prod.fst).Nodup)
    (m : OrderedMap α) :
    (entries.foldl (fun m e => m.insert e.1 e.2) m).keys =
      m.keys ++ (entries.map Prod.fst).filter (· ∉ m.keys) := by
  have fresh : ((entries.map Prod.fst).removeAll (m.entries.map Prod.fst)).Nodup :=
    distinct.sublist List.filter_sublist
  show (List.map Prod.fst _) = _
  rw [entries_foldl_insert, Entries.keys_foldl_insert entries m.distinct, List.eraseDups_append,
    eraseDups_of_nodup m.distinct, eraseDups_of_nodup fresh, List.removeAll, keys]
  simp

/-- They take the places of what the map had under their keys. -/
theorem get?_foldl_insert {entries : List (String × α)} (distinct : (entries.map Prod.fst).Nodup)
    (m : OrderedMap α) (key : String) :
    (entries.foldl (fun m e => m.insert e.1 e.2) m).get? key =
      (entries.lookup key).or (m.get? key) := by
  rw [get?, entries_foldl_insert, Entries.lookup_foldl_insert, Entries.lookup_reverse distinct]
  rfl

/-- Entries with distinct keys make a map that has just them. -/
theorem entries_ofList {entries : List (String × α)} (distinct : (entries.map Prod.fst).Nodup) :
    (ofList entries).entries = entries := by
  exact (entries_foldl_insert entries empty).trans (Entries.collect_eq_self distinct)

/-- The keys of a map after an insertion. -/
theorem mem_keys_insert {m : OrderedMap α} {key other : String} {value : α} :
    other ∈ (m.insert key value).keys ↔ other ∈ m.keys ∨ other = key := by
  rw [keys_insert]
  split
  · rename_i known
    exact ⟨.inl, fun h => h.elim id fun same => same ▸ known⟩
  · rw [List.mem_append, List.mem_singleton]

/-! ### Mapped values -/

section Map

variable {β : Type} (f : α → β)

/-- Mapping the values keeps the keys and their order. -/
@[simp] theorem keys_map (m : OrderedMap α) : (m.map f).keys = m.keys := by
  simp [keys, map, Function.comp_def]

/-- Mapping the values keeps the size. -/
@[simp] theorem size_map (m : OrderedMap α) : (m.map f).size = m.size := by
  simp [size, map]

/-- A key of a mapped map has the mapped value of the key. -/
@[simp] theorem get?_map (m : OrderedMap α) (key : String) :
    (m.map f).get? key = (m.get? key).map f := by
  have go (entries : List (String × α)) :
      List.lookup key (entries.map fun e => (e.1, f e.2)) = (entries.lookup key).map f := by
    induction entries with
    | nil => rfl
    | cons e entries ih =>
      rw [List.map_cons, Entries.lookup_cons, Entries.lookup_cons, ih]
      split <;> rfl
  exact go m.entries

/-- An inserted entry is mapped with the others. -/
theorem map_insert (m : OrderedMap α) (key : String) (value : α) :
    (m.insert key value).map f = (m.map f).insert key (f value) := by
  have go (entries : List (String × α)) :
      (Entries.insert key value entries).map (fun e => (e.1, f e.2)) =
        Entries.insert key (f value) (entries.map fun e => (e.1, f e.2)) := by
    induction entries with
    | nil => rfl
    | cons e entries ih =>
      obtain ⟨k, v⟩ := e
      by_cases same : k = key
      · simp [Entries.insert, same]
      · simp [Entries.insert, same, ih]
  exact ext (go m.entries)

/-- Entries may be mapped before they are inserted or after. -/
theorem map_foldl_insert (entries : List (String × α)) (m : OrderedMap α) :
    (entries.foldl (fun m e => m.insert e.1 e.2) m).map f =
      (entries.map fun e => (e.1, f e.2)).foldl (fun m e => m.insert e.1 e.2) (m.map f) := by
  induction entries generalizing m with
  | nil => rfl
  | cons e entries ih => rw [List.foldl_cons, ih, map_insert, List.map_cons, List.foldl_cons]

/-- Pairing up the values of a mapped map maps them first. -/
@[simp] theorem zipWith_map {γ δ : Type} (g : β → γ → δ) (m : OrderedMap α) (others : List γ) :
    (m.map f).zipWith g others = m.zipWith (fun a c => g (f a) c) others := by
  refine ext ?_
  show List.zipWith _ (m.entries.map _) _ = _
  rw [List.zipWith_map_left]
  rfl

end Map

end OrderedMap

end ShapeSchema
