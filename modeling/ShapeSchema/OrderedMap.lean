/-!
# `ShapeSchema.OrderedMap`: maps that keep the order of first insertion

Member lists, shape tables and compiled indices are all read back in the order in which their keys
first appeared, so the order is part of the value. A later insertion under a known key replaces the
value and leaves the key where it stands (`keys_insert`).

The association lists of `Entries` are the common ground with JSON objects, which have the same
insertion rule. A key is looked up in them by `List.lookup`.
-/

set_option autoImplicit false

namespace ShapeSchema

namespace Entries

variable {α : Type}

/-- Replaces the value of a known key in place, and appends an unknown key. -/
def insert (key : String) (value : α) : List (String × α) → List (String × α)
  | [] => [(key, value)]
  | (k, v) :: rest => if k = key then (key, value) :: rest else (k, v) :: insert key value rest

/-- Entries read from left to right, each inserted after the ones before it. -/
def collect (entries : List (String × α)) : List (String × α) :=
  entries.foldl (fun acc e => insert e.1 e.2 acc) []

/-- The keys after an insertion: a new key comes last. -/
theorem keys_insert (key : String) (value : α) (entries : List (String × α)) :
    (insert key value entries).map Prod.fst =
      if key ∈ entries.map Prod.fst then entries.map Prod.fst
      else entries.map Prod.fst ++ [key] := by
  induction entries with
  | nil => simp [insert]
  | cons e rest ih =>
    obtain ⟨k, v⟩ := e
    by_cases h : k = key
    · simp [insert, h]
    · have h' : ¬ key = k := fun hk => h hk.symm
      simp only [insert, h, if_false, List.map_cons, ih, List.mem_cons, h', false_or]
      split <;> simp

/-- An insertion repeats no key. -/
theorem nodup_insert {entries : List (String × α)} (key : String) (value : α)
    (h : (entries.map Prod.fst).Nodup) : ((insert key value entries).map Prod.fst).Nodup := by
  rw [keys_insert]
  split
  · exact h
  · next hk =>
    refine List.nodup_append.2 ⟨h, by simp, ?_⟩
    intro a ha b hb hab
    simp only [List.mem_singleton] at hb
    exact hk (hb ▸ hab ▸ ha)

end Entries

/-- Entries with distinct keys, in the order in which the keys were first inserted. -/
structure OrderedMap (α : Type) where
  entries : List (String × α) := []
  distinct : (entries.map Prod.fst).Nodup := by simp
  deriving DecidableEq, Repr

namespace OrderedMap

variable {α β : Type}

/-- The map without entries. -/
def empty : OrderedMap α := {}

instance : Inhabited (OrderedMap α) := ⟨empty⟩

/-- The keys, in order. -/
def keys (m : OrderedMap α) : List String := m.entries.map Prod.fst
/-- The values, in the order of their keys. -/
def values (m : OrderedMap α) : List α := m.entries.map Prod.snd
/-- The number of entries. -/
def size (m : OrderedMap α) : Nat := m.entries.length
/-- The map has no entries. -/
def isEmpty (m : OrderedMap α) : Bool := m.entries.isEmpty

/-- The value under a key, if there is one. -/
def get? (m : OrderedMap α) (key : String) : Option α := m.entries.lookup key

/-- The map has the key. -/
def contains (m : OrderedMap α) (key : String) : Bool := (m.get? key).isSome

/-- Puts a value under a key: in the place of the value there, or behind all others. -/
def insert (m : OrderedMap α) (key : String) (value : α) : OrderedMap α where
  entries := Entries.insert key value m.entries
  distinct := Entries.nodup_insert key value m.distinct

/-- The first `n` entries. -/
def take (m : OrderedMap α) (n : Nat) : OrderedMap α where
  entries := m.entries.take n
  distinct := by
    rw [List.map_take]
    exact m.distinct.sublist (List.take_sublist n _)

/-- Maps the values and leaves the keys where they are. -/
def map (f : α → β) (m : OrderedMap α) : OrderedMap β where
  entries := m.entries.map fun e => (e.1, f e.2)
  distinct := by
    have h : (m.entries.map fun e => (e.1, f e.2)).map Prod.fst = m.entries.map Prod.fst := by
      simp [Function.comp_def]
    rw [h]; exact m.distinct

/-- Joins each value with the element of a list at its position. Entries beyond the list are left
out. -/
def zipWith {γ : Type} (f : α → β → γ) (m : OrderedMap α) (others : List β) : OrderedMap γ where
  entries := List.zipWith (fun e b => (e.1, f e.2 b)) m.entries others
  distinct := by
    have h : (List.zipWith (fun e b => (e.1, f e.2 b)) m.entries others).map Prod.fst =
        (m.entries.map Prod.fst).take others.length := by
      induction m.entries generalizing others with
      | nil => simp
      | cons e rest ih => cases others <;> simp [ih]
    rw [h]; exact m.distinct.sublist (List.take_sublist _ _)

/-- The entries inserted one by one, so that the last value of a repeated key is kept. -/
def ofList (entries : List (String × α)) : OrderedMap α :=
  entries.foldl (fun (m : OrderedMap α) e => m.insert e.1 e.2) empty

/-- The keys after an insertion: a new key comes last. -/
theorem keys_insert (m : OrderedMap α) (key : String) (value : α) :
    (m.insert key value).keys = if key ∈ m.keys then m.keys else m.keys ++ [key] :=
  Entries.keys_insert key value m.entries

end OrderedMap

end ShapeSchema
