import ShapeSchema.Proofs.Decode.Reading

/-!
# `ShapeSchema.Proofs.Decode.Record`: a record is read part by part

A record is an object or the array of its fields, and the reading of an object follows the order in
which its entries are written. None of this matters: what is read from a record depends on its parts
alone, where a part is the entry with the name of a field or the item at the field's position
(`Json.part?`). `Reading.gather` visits the fields in declaration order and looks each part up, and
`Reading.record_eq_gather` says that it reads the same.

For that the setters of two fields have to commute, because an object may have its entries in any
order (`Field.Commutes`).
-/

set_option autoImplicit false

namespace ShapeSchema

namespace Json

/-- A part of a record: the entry with a name or, in a record that is written as an array, the item
at a position. -/
def part? (position : Nat) (name : String) : Json → Option Json
  | .object fields => fields.lookup name
  | .array items => items[position]?
  | _ => none

/-- A part of a record, or what stands for it where it is missing. -/
def partOr (position : Nat) (name : String) (value missing : Json) : Json :=
  (value.part? position name).getD missing

/-- Whether a value can be a record with so many fields. -/
def isRecord (count : Nat) : Json → Bool
  | .object _ => true
  | .array items => decide (items.length ≤ count)
  | _ => false

end Json

/-- The parts of a record that repeats no key repeat none either. -/
theorem Json.Regular.part {number : Json.Number → Prop} {value part : Json}
    (regular : value.Regular number) {position : Nat} {name : String}
    (h : value.part? position name = some part) : part.Regular number := by
  cases regular with
  | array values => exact values part (List.mem_of_getElem? h)
  | object _ values => exact values (name, part) (Entries.mem_of_lookup h)
  | _ => cases h

/-- A part of a regular value is regular, and so is what stands in for one that is missing. -/
theorem Json.Regular.partOr {number : Json.Number → Prop} {value missing : Json}
    (regular : value.Regular number) (regular' : missing.Regular number) (position : Nat)
    (name : String) : (value.partOr position name missing).Regular number := by
  rw [Json.partOr]
  cases found : value.part? position name with
  | none => exact regular'
  | some part => exact regular.part found

namespace Decoder

variable {α β γ : Type}

/-- Reads the fields in declaration order, each from the part that `look` finds for it. A field in
`seen` is read already, so it may be missing. -/
def Reading.gather (look : Nat → String → Option Json) (seen : List String) :
    List (Field α) → Nat → α → Option α
  | [], _, record => some record
  | field :: fields, position, record =>
    match look position field.name with
    | some value => do
      gather look seen fields (position + 1) ((← field.read.reading value) record)
    | none =>
      if field.required && !seen.contains field.name then none
      else gather look seen fields (position + 1) record

/-! ### Arrays -/

/-- From some position on, the items of an array give the fields from there on, unless there are
more items than fields. -/
theorem Reading.positional_drop (fields : List (Field α)) (items : List Json) (position : Nat)
    (record : α) :
    Reading.positional fields (items.drop position) record =
      if items.length ≤ position + fields.length then
        Reading.gather (fun i _ => items[i]?) [] fields position record
      else none := by
  -- On the fields, the position moving along.
  induction fields generalizing position record with
  | nil =>
    by_cases enough : items.length ≤ position
    · simp [positional, gather, List.drop_eq_nil_of_le enough, enough]
    · have more := List.drop_eq_getElem_cons (Nat.lt_of_not_le enough)
      rw [more]
      simp [positional, enough]
  | cons field fields ih =>
    have shift : position + (fields.length + 1) = position + 1 + fields.length := by omega
    by_cases enough : items.length ≤ position
    · -- The array ends here, so each field left has to have a default.
      have none_left : items.drop position = [] := List.drop_eq_nil_of_le enough
      have next : items.drop (position + 1) = [] := List.drop_eq_nil_of_le (by omega)
      have within : items.length ≤ position + 1 + fields.length := by omega
      have rest := ih (position + 1) record
      rw [next, if_pos within] at rest
      have absent : items[position]? = none := List.getElem?_eq_none enough
      rw [none_left, positional, gather, List.length_cons, shift, if_pos within, rest, absent]
      simp
    · have inside : position < items.length := Nat.lt_of_not_le enough
      rw [List.drop_eq_getElem_cons inside, positional, gather, List.getElem?_eq_getElem inside,
        List.length_cons, shift]
      simp only [ih]
      split <;> simp

/-! ### Objects -/

/-- The setters that two fields read commute. -/
def Field.Commutes (f g : Field α) : Prop :=
  ∀ ⦃v w : Json⦄ ⦃s t : α → α⦄, f.read.reading v = some s → g.read.reading w = some t →
    ∀ record, s (t record) = t (s record)

/-- Looking up in entries pays no heed to positions. -/
abbrev byName (entries : List (String × Json)) : Nat → String → Option Json :=
  fun _ name => entries.lookup name

/-- Fields whose parts are found alike, and are seen alike, are gathered alike. -/
theorem Reading.gather_congr {look look' : Nat → String → Option Json} {seen seen' : List String}
    {fields : List (Field α)}
    (agree : ∀ f ∈ fields, (∀ i, look i f.name = look' i f.name) ∧
      seen.contains f.name = seen'.contains f.name) (position : Nat) (record : α) :
    Reading.gather look seen fields position record =
      Reading.gather look' seen' fields position record := by
  induction fields generalizing position record with
  | nil => rfl
  | cons field fields ih =>
    obtain ⟨found, known⟩ := agree field List.mem_cons_self
    have ih := ih fun f hf => agree f (List.mem_cons_of_mem _ hf)
    simp only [gather, found, known, ih]

/-- An entry for one of the fields can be read first. -/
theorem Reading.gather_entry {fields : List (Field α)} (names : (fields.map Field.name).Nodup)
    (commute : fields.Pairwise Field.Commutes) {field : Field α} (known : field ∈ fields)
    (value : Json) {entries : List (String × Json)}
    (new : entries.lookup field.name = none) (seen : List String) (position : Nat)
    (record : α) :
    Reading.gather (byName ((field.name, value) :: entries)) seen fields position record =
      (field.read.reading value).bind fun set =>
        Reading.gather (byName entries) (field.name :: seen) fields position (set record) := by
  induction fields generalizing position record with
  | nil => cases known
  | cons f fields ih =>
    rw [List.map_cons, List.nodup_cons] at names
    rw [List.pairwise_cons] at commute
    rcases List.mem_cons.1 known with rfl | later
    · -- The field stands here. No later one has its name, so nothing else changes.
      have others (g : Field α) (hg : g ∈ fields) : field.name ≠ g.name := fun same =>
        names.1 (List.mem_map.2 ⟨g, hg, same.symm⟩)
      have rest (set : α → α) := @gather_congr α (byName ((field.name, value) :: entries))
        (byName entries) seen (field.name :: seen) fields
        (fun g hg => ⟨fun _ => by simp [byName, Entries.lookup_cons, others g hg],
          by simp [(others g hg).symm]⟩) (position + 1) (set record)
      simp [gather, byName, new] at rest ⊢
      simp [rest]
    · have other : field.name ≠ f.name := fun same =>
        names.1 (List.mem_map.2 ⟨field, later, same⟩)
      have ih := ih names.2 commute.2 later
      have seenAlike : (field.name :: seen).contains f.name = seen.contains f.name := by
        simp [other.symm]
      simp only [gather, byName, Entries.lookup_cons, if_neg other, seenAlike] at ih ⊢
      cases found : entries.lookup f.name with
      | none =>
        by_cases missing : (f.required && !seen.contains f.name) = true
        · simp only [if_pos missing]
          cases field.read.reading value <;> rfl
        · simp only [if_neg missing]
          exact ih (position + 1) record
      | some part =>
        -- Both fields are read, in one order or the other.
        cases first : f.read.reading part with
        | none => cases field.read.reading value <;> simp [first]
        | some s =>
          cases second : field.read.reading value with
          | none => simp [first, second, ih]
          | some t => simp [first, second, ih, commute.1 field later first second]

/-- Without entries the record is as it was, unless a field has to be there. -/
theorem Reading.gather_nil (fields : List (Field α)) (seen : List String) (position : Nat)
    (record : α) :
    Reading.gather (byName []) seen fields position record =
      match fields.find? fun f => f.required && !seen.contains f.name with
      | some _ => none
      | none => some record := by
  induction fields generalizing position with
  | nil => rfl
  | cons f fields ih =>
    rw [gather, List.find?_cons]
    cases f.required && !seen.contains f.name with
    | true => rfl
    | false => exact ih (position + 1)

/-- Entries with distinct keys are read as they stand, or field by field. -/
theorem Reading.named_eq_gather {fields : List (Field α)} (names : (fields.map Field.name).Nodup)
    (commute : fields.Pairwise Field.Commutes) {entries : List (String × Json)}
    (distinct : (entries.map Prod.fst).Nodup) {seen : List String}
    (new : ∀ name ∈ seen, name ∉ entries.map Prod.fst) (record : α) :
    Reading.named fields entries seen record =
      Reading.gather (byName entries) seen fields 0 record := by
  induction entries generalizing seen record with
  | nil =>
    have missing := gather_nil fields seen 0 record
    exact missing.symm
  | cons entry entries ih =>
    obtain ⟨name, value⟩ := entry
    rw [List.map_cons, List.nodup_cons] at distinct
    rw [named]
    cases known : fields.find? fun f => f.name == name with
    | none =>
      -- No field has this name, so looking the fields up passes over the entry.
      have unknown (f : Field α) (hf : f ∈ fields) : name ≠ f.name := by
        have differ := List.find?_eq_none.1 known f hf
        exact fun same => differ (beq_iff_eq.2 same.symm)
      have passed (f : Field α) (hf : f ∈ fields) :
          entries.lookup f.name = List.lookup f.name ((name, value) :: entries) := by
        rw [Entries.lookup_cons, if_neg (unknown f hf)]
      rw [ih distinct.2 fun n hn mem => new n hn (List.mem_cons_of_mem _ mem)]
      exact gather_congr (fun f hf => ⟨fun _ => passed f hf, rfl⟩) 0 record
    | some field =>
      obtain rfl : field.name = name := by simpa using List.find?_some known
      have unread : field.name ∉ seen := fun mem => new _ mem List.mem_cons_self
      have absent : entries.lookup field.name = none := Entries.lookup_eq_none_iff.2 distinct.1
      rw [gather_entry names commute (List.mem_of_find?_eq_some known) value absent]
      have newer : ∀ n ∈ field.name :: seen, n ∉ entries.map Prod.fst := by
        intro n hn mem
        rcases List.mem_cons.1 hn with rfl | old
        · exact distinct.1 mem
        · exact new n old (List.mem_cons_of_mem _ mem)
      simp [unread, ih distinct.2 newer]

/-- A record is read part by part. -/
theorem Reading.record_eq_gather {fields : List (Field α)} (names : (fields.map Field.name).Nodup)
    (commute : fields.Pairwise Field.Commutes) {value : Json}
    (regular : value.Regular fun _ => True) (start : α) :
    Reading.record fields start value =
      if value.isRecord fields.length then
        Reading.gather (fun position name => value.part? position name) [] fields 0 start
      else none := by
  cases regular with
  | array =>
    rename_i items _
    have whole := positional_drop fields items 0 start
    rw [List.drop_zero, Nat.zero_add] at whole
    simp only [Json.isRecord, decide_eq_true_eq]
    exact whole
  | object distinct => exact named_eq_gather names commute distinct (by simp) start
  | _ => rfl

/-- What a record decoder reads from a value, part by part. -/
theorem reading_record (typeName : String) {fields : List (Field α)}
    (faithful : ∀ f ∈ fields, Faithful f.read) (names : (fields.map Field.name).Nodup)
    (commute : fields.Pairwise Field.Commutes) (start : α) {value : Json}
    (regular : value.Regular fun _ => True) :
    (record typeName fields start).reading value =
      if value.isRecord fields.length then
        Reading.gather (fun position name => value.part? position name) [] fields 0 start
      else none := by
  rw [(Reads.record typeName faithful start).reading_eq regular,
    Reading.record_eq_gather names commute regular]

/-! ### Setters -/

/-- What a field reads puts a value into one part of the record. -/
def Field.Sets (f : Field α) (set : β → α → α) : Prop :=
  ∀ ⦃value : Json⦄ ⦃s : α → α⦄, f.read.reading value = some s → ∃ b, s = set b

/-- A field that is needed sets what is read for it. -/
theorem Field.sets_needed (name : String) (read : Decoder β) (set : β → α → α) :
    (Field.needed name read set).Sets set := by
  intro value s h
  obtain ⟨b, -, rfl⟩ := Option.map_eq_some_iff.1 ((toOption_map _ _).symm.trans h)
  exact ⟨b, rfl⟩

/-- So does one with a default. -/
theorem Field.sets_optional (name : String) (read : Decoder β) (set : β → α → α) :
    (Field.optional name read set).Sets set :=
  sets_needed name read set

/-- Two fields may be read in either order if what they set does not overlap. -/
theorem Field.Sets.commutes {f g : Field α} {set : β → α → α} {set' : γ → α → α} (hf : f.Sets set)
    (hg : g.Sets set') (commute : ∀ b c record, set b (set' c record) = set' c (set b record)) :
    f.Commutes g := by
  intro v w s t hs ht record
  obtain ⟨b, rfl⟩ := hf hs
  obtain ⟨c, rfl⟩ := hg ht
  exact commute b c record

/-! ### One field after the other -/

/-- A value is read, and its setter is what the field reads. -/
theorem reading_set (read : Decoder β) (set : β → α → α) (value : Json) :
    reading (fun context tree => (read context tree).map set) value =
      (read.reading value).map set :=
  toOption_map _ _

section Steps

variable {value : Json} {read : Decoder β} {f : Reading β} {set : β → α → α} {name : String}
variable {fields : List (Field α)} {position : Nat} {record : α} {rest : β → Option α}

/-- A field that has to be written is read from its part, and the rest goes on with its value. -/
theorem Reading.gather_needed (regular : value.Regular fun _ => True) (h : Reads read f)
    (next : ∀ b, Reading.gather (fun i n => value.part? i n) [] fields (position + 1)
      (set b record) = rest b) :
    Reading.gather (fun i n => value.part? i n) [] (.needed name read set :: fields) position
        record = ((value.part? position name).bind f).bind rest := by
  rw [gather]
  cases found : value.part? position name with
  | none => simp [Field.needed, found]
  | some part =>
    have inner := h.reading_eq (regular.part found)
    simp only [Field.needed, found, reading_set, inner]
    show Option.bind (Option.map set (f part)) _ = (f part).bind rest
    rw [Option.bind_map]
    exact congrArg _ (funext next)

/-- A field with a default is read from its part. Where the part is missing, another value stands
for it, from which the default would be read. -/
theorem Reading.gather_optional (regular : value.Regular fun _ => True) (h : Reads read f)
    (missing : Json) {default : β} (reads : f missing = some default)
    (kept : set default record = record)
    (next : ∀ b, Reading.gather (fun i n => value.part? i n) [] fields (position + 1)
      (set b record) = rest b) :
    Reading.gather (fun i n => value.part? i n) [] (.optional name read set :: fields) position
        record = (f (value.partOr position name missing)).bind rest := by
  rw [gather, Json.partOr]
  cases found : value.part? position name with
  | none => simp [Field.optional, found, reads, ← next, kept]
  | some part =>
    have inner := h.reading_eq (regular.part found)
    simp only [Field.optional, found, reading_set, inner]
    show Option.bind (Option.map set (f part)) _ = (f part).bind rest
    rw [Option.bind_map]
    exact congrArg _ (funext next)

end Steps

end Decoder

end ShapeSchema
