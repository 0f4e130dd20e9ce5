import ShapeSchema.Decode
import ShapeSchema.Proofs.Json.Tree

/-!
# `ShapeSchema.Proofs.Decode.Reading`: decoders read values

A decoder works on trees, and a tree has more to it than the value it holds: places, an origin and a
limit of nesting. None of it bears on what is read, only on the errors. `Decoder.Reads read reading`
says so: from every tree that holds a value the decoder reads what `reading` makes of that value,
and it fails where `reading` has no answer.

Each combinator of `ShapeSchema.Decode` has a reading of its own, a function on JSON values without
places and errors, and keeps the property (`Reads.list`, `Reads.record` and so on). A decoder that
has a reading is *faithful*: it reads from a tree what it reads from the value in memory
(`Reads.faithful`). In these proofs the fields that a record does not know need most care. They are
not decoded but skipped, and the skipping has to succeed because the field holds a value.
-/

set_option autoImplicit false

namespace ShapeSchema

open Json (Tree Ending Key)
open Json.Tree (Depth Holds HoldEntries holds_ofJson)

namespace Decoder

open Decode

variable {α β : Type}

/-- What a typed document makes of a value, if the value fits. -/
abbrev Reading (α : Type) := Json → Option α

/-- What a decoder reads from a value in memory. -/
def reading (read : Decoder α) : Reading α := fun value =>
  (read ⟨.memory, none⟩ (Tree.ofJson value)).toOption

/-- From a tree that holds a value the decoder reads what `reading` makes of the value. -/
def Reads (read : Decoder α) (reading : Reading α) : Prop :=
  ∀ ⦃context : Context⦄ ⦃tree : Tree⦄ ⦃value : Json⦄, Holds context.depth tree value →
    (read context tree).toOption = reading value

/-- The decoder reads the same from a tree as from the value that the tree holds. -/
abbrev Faithful (read : Decoder α) : Prop := Reads read read.reading

/-- A decoder with a reading reads that from a value in memory. -/
theorem Reads.reading_eq {read : Decoder α} {f : Reading α} (h : Reads read f) {value : Json}
    (regular : value.Regular fun _ => True) : read.reading value = f value :=
  h (holds_ofJson regular)

/-- A decoder that has a reading is faithful. -/
theorem Reads.faithful {read : Decoder α} {f : Reading α} (h : Reads read f) : Faithful read := by
  intro context tree value held
  rw [h held, h.reading_eq held.regular_value]

/-! ### Scalars and plain values -/

/-- Where a value has the wrong kind nothing is read. -/
@[simp] theorem toOption_wrongKind (expected : String) (tree : Tree) :
    (wrongKind expected tree : Except Error α).toOption = none := by
  rw [wrongKind]
  cases found tree <;> rfl

/-- A text is read from a string, and from nothing else. -/
theorem reads_string : Reads string Json.asString? := by
  intro context tree value held
  cases held.form with
  | string => rfl
  | _ => exact toOption_wrongKind _ _

/-- The nearest binary64 number, also of an integer. -/
def Reading.double : Reading Double
  | .number n => some n.toDouble
  | _ => none

/-- A number is read as the nearest binary64 number. -/
theorem reads_double : Reads double Reading.double := by
  intro context tree value held
  cases held.form with
  | number => rfl
  | _ => exact toOption_wrongKind _ _

/-- A plain value is read as it is. -/
theorem reads_json : Reads json some := by
  intro context tree value held
  rw [json, held.value]
  rfl

/-! ### Options, lists and maps -/

namespace Reading

/-- A null is read as an absent value, and every other value is read. -/
def option (f : Reading α) : Reading (Option α)
  | .null => some none
  | value => (f value).map some

/-- The items of an array, all of which have to be read. -/
def list (f : Reading α) : Reading (List α)
  | .array items => items.mapM f
  | _ => none

/-- The value of an entry is read, its key stays. -/
def entry (f : Reading α) (e : String × Json) : Option (String × α) := (f e.2).map fun v => (e.1, v)

/-- The entries of an object, all of which have to be read. -/
def map (f : Reading α) : Reading (OrderedMap α)
  | .object fields => (fields.mapM f.entry).map .ofList
  | _ => none

end Reading

/-- An optional value is read if the value is. -/
theorem Reads.option {read : Decoder α} {f : Reading α} (h : Reads read f) :
    Reads (option read) (Reading.option f) := by
  intro context tree value held
  cases held.form with
  | null => rfl
  | _ =>
    have inner := h held
    simp [Decoder.option, Reading.option, inner]

/-- Entering an array or object of a tree that holds a value. -/
theorem enter_eq {context : Context} {start : Nat} {inner : Depth}
    (room : context.depth.enter start = .ok inner) :
    enter context start = .ok { context with depth := inner } := by
  rw [enter, room]
  rfl

/-- Reading the items of an array comes down to reading the values that they hold. -/
theorem toOption_items {read : Decoder α} {f : Reading α} (h : Reads read f) (context : Context)
    (stop : Nat) {trees : List Tree} {values : List Json}
    (each : List.Forall₂ (Holds context.depth) trees values) (index : Nat) :
    (items read context index trees (.closed stop)).toOption = values.mapM f := by
  induction each generalizing index with
  | nil => rfl
  | cons first _ ih =>
    rw [items, List.mapM_cons, toOption_bind, toOption_mapError, h first]
    refine congrArg _ (funext fun value => ?_)
    rw [toOption_bind, ih]
    rfl

/-- A list is read if its items are. -/
theorem Reads.list {read : Decoder α} {f : Reading α} (h : Reads read f) :
    Reads (list read) (Reading.list f) := by
  intro context tree value held
  cases held.form with
  | array room each =>
    rw [Decoder.list, enter_eq room]
    exact toOption_items h _ _ each 0
  | _ => exact toOption_wrongKind _ _

/-- The name of a key that is read without a fault. -/
theorem keyName_eq {key : Key} {name : String} (h : key.Reads name) : keyName key = .ok name := by
  rw [keyName, h.name]
  rfl

/-- Behind such a key there is a colon. -/
theorem keyColon_eq {key : Key} {name : String} (h : key.Reads name) : keyColon key = .ok () := by
  rw [keyColon, Key.checkColon, h.colon]
  rfl

/-- Reading the fields of an object comes down to reading the entries that they hold. -/
theorem toOption_entries {read : Decoder α} {f : Reading α} (h : Reads read f) (context : Context)
    (stop : Nat) {trees : List (Key × Tree)} {values : List (String × Json)}
    (each : HoldEntries context.depth trees values) :
    (entries read context trees (.closed stop)).toOption = values.mapM f.entry := by
  induction each with
  | nil => rfl
  | cons first _ ih =>
    obtain ⟨reads, held⟩ := first
    rw [entries, keyName_eq reads, keyColon_eq reads, List.mapM_cons, Reading.entry]
    show Except.toOption (Except.mapError _ _ >>= _) = _
    rw [toOption_bind, toOption_mapError, h held, Option.bind_eq_bind, Option.bind_map]
    refine congrArg _ (funext fun value => ?_)
    show Except.toOption (_ >>= _) = _
    rw [toOption_bind, ih]
    rfl

/-- A map is read if its values are. -/
theorem Reads.map {read : Decoder α} {f : Reading α} (h : Reads read f) :
    Reads (map read) (Reading.map f) := by
  intro context tree value held
  cases held.form with
  | @object inner _ stop _ _ room _ each =>
    have values := toOption_entries h ⟨context.origin, inner⟩ stop each
    rw [Decoder.map, enter_eq room]
    show Except.toOption (entries read ⟨context.origin, inner⟩ _ _ >>= _) = _
    rw [toOption_bind, values, Reading.map, Option.map_eq_bind]
    rfl
  | _ => exact toOption_wrongKind _ _

/-! ### Records -/

namespace Reading

/-- The record of an array, its items taken one by one for the fields in declaration order. -/
def positional : List (Field α) → List Json → α → Option α
  | [], [], record => some record
  | [], _ :: _, _ => none
  | field :: fields, value :: values, record => do
    positional fields values ((← field.read.reading value) record)
  | field :: fields, [], record => if field.required then none else positional fields [] record

/-- The record of an object, its entries taken one by one. The fields in `seen` are read. -/
def named (fields : List (Field α)) : List (String × Json) → List String → α → Option α
  | [], seen, record =>
    match fields.find? fun f => f.required && !seen.contains f.name with
    | some _ => none
    | none => some record
  | (name, value) :: rest, seen, record =>
    match fields.find? fun f => f.name == name with
    | none => named fields rest seen record
    | some field =>
      if seen.contains name then none
      else do named fields rest (name :: seen) ((← field.read.reading value) record)

/-- A record is written as the array of its fields, in order, or as an object. -/
def record (fields : List (Field α)) (start : α) : Reading α
  | .array values => positional fields values start
  | .object entries => named fields entries [] start
  | _ => none

end Reading

/-- A field whose value is read keeps its reading with the setter on it. -/
theorem Reads.set {read : Decoder β} {f : Reading β} (h : Reads read f) (set : β → α → α) :
    Reads (fun context tree => (read context tree).map set) fun value => (f value).map set := by
  intro context tree value held
  rw [toOption_map, h held]

/-- The fields of a record are read from the items of an array one by one, and an item too many
fails in a text as it does in memory. -/
theorem toOption_positional {fields : List (Field α)} (faithful : ∀ f ∈ fields, Faithful f.read)
    (expected : String) (context : Context) (stop : Nat) {trees : List Tree} {values : List Json}
    (each : List.Forall₂ (Holds context.depth) trees values) (index : Nat) (start : α) :
    (positional expected context fields index trees (.closed stop) start).toOption =
      Reading.positional fields values start := by
  induction fields generalizing trees values index start with
  | nil =>
    cases each with
    | nil => rfl
    | cons first rest =>
      -- An item too many is an error, though not the same one in a text and in memory.
      rw [positional, arrayEnd]
      cases context.origin <;> rfl
  | cons field fields ih =>
    have later (f : Field α) (hf : f ∈ fields) : Faithful f.read :=
      faithful f (List.mem_cons_of_mem _ hf)
    cases each with
    | nil =>
      rw [positional, Reading.positional, ← ih later .nil]
      split <;> rfl
    | cons first rest =>
      have read := faithful field List.mem_cons_self first
      simp [positional, Reading.positional, read, ih later rest]

/-- Fields that the record does not know are skipped, and skipping them succeeds. -/
theorem toOption_named {fields : List (Field α)} (faithful : ∀ f ∈ fields, Faithful f.read)
    (context : Context) (stop : Nat) {trees : List (Key × Tree)} {entries : List (String × Json)}
    (each : HoldEntries context.depth trees entries) (seen : List String) (start : α) :
    (named fields context trees (.closed stop) seen start).toOption =
      Reading.named fields entries seen start := by
  induction each generalizing seen start with
  | nil =>
    rw [named, Reading.named]
    cases fields.find? fun f => f.required && !seen.contains f.name <;> rfl
  | @cons tree entry trees entries first _ ih =>
    obtain ⟨key, tree⟩ := tree
    obtain ⟨name, value⟩ := entry
    obtain ⟨reads, held⟩ := first
    rw [named, Reading.named, keyName_eq reads, except_ok_bind]
    -- An unknown name is skipped over, and a known one is read, unless it was seen before.
    cases known : fields.find? fun f => f.name == name with
    | none =>
      dsimp only
      rw [keyColon_eq reads, except_ok_bind, held.skipFault?_eq_none]
      exact ih seen start
    | some field =>
      have read := faithful field (List.mem_of_find?_eq_some known) held
      by_cases repeated : name ∈ seen
      · simp [repeated]
      · simp [repeated, keyColon_eq reads, read, ih]

/-- A record is read if its fields are, from an array and from an object. -/
theorem Reads.record (typeName : String) {fields : List (Field α)}
    (faithful : ∀ f ∈ fields, Faithful f.read) (start : α) :
    Reads (record typeName fields start) (Reading.record fields start) := by
  intro context tree value held
  cases held.form with
  | @array inner _ stop _ _ room each =>
    rw [Decoder.record, enter_eq room]
    exact toOption_positional faithful _ ⟨context.origin, inner⟩ stop each 0 start
  | @object inner _ stop _ _ room _ each =>
    rw [Decoder.record, enter_eq room]
    exact toOption_named faithful ⟨context.origin, inner⟩ stop each [] start
  | _ => exact toOption_wrongKind _ _

/-! ### Maps with distinct keys -/

/-- Reading the values leaves the keys. -/
theorem Reading.keys_of_entries {f : Reading α} {fields : List (String × Json)}
    {entries : List (String × α)} (h : fields.mapM f.entry = some entries) :
    entries.map Prod.fst = fields.map Prod.fst := by
  refine (map_eq_of_forall₂ (fun e x hx => ?_) (mapM_eq_some_iff.1 h)).symm
  obtain ⟨v, -, rfl⟩ := Option.map_eq_some_iff.1 hx
  rfl

/-- Maps with the same keys, in order, and corresponding values. -/
theorem Reading.rel_map {R : String → α → β → Prop} {f : Reading α} {g : Reading β}
    {fields fields' : List (String × Json)} (distinct : (fields.map Prod.fst).Nodup)
    (distinct' : (fields'.map Prod.fst).Nodup)
    (each : List.Forall₂ (fun e e' => e.1 = e'.1 ∧ Option.Rel (R e.1) (f e.2) (g e'.2))
      fields fields') :
    Option.Rel
      (fun m m' => List.Forall₂ (fun x x' => x.1 = x'.1 ∧ R x.1 x.2 x'.2) m.entries m'.entries)
      (Reading.map f (.object fields)) (Reading.map g (.object fields')) := by
  have entries : Option.Rel (List.Forall₂ fun x x' => x.1 = x'.1 ∧ R x.1 x.2 x'.2)
      (fields.mapM f.entry) (fields'.mapM (entry g)) := by
    refine rel_mapM (fun e e' h => ?_) each
    obtain ⟨key, value⟩ := h
    exact ShapeSchema.rel_map value fun a b hab => ⟨key, hab⟩
  rw [Reading.map, Reading.map]
  cases read : fields.mapM f.entry with
  | none =>
    rw [read] at entries
    cases read' : fields'.mapM (entry g) with
    | none => exact .none
    | some => rw [read'] at entries; cases entries
  | some es =>
    -- The keys are distinct on both sides, so both maps are the lists of entries that are read.
    rw [read] at entries
    cases read' : fields'.mapM (entry g) with
    | none => rw [read'] at entries; cases entries
    | some es' =>
      rw [read'] at entries
      cases entries with | some related
      refine .some ?_
      rw [OrderedMap.entries_ofList (keys_of_entries read ▸ distinct),
        OrderedMap.entries_ofList (keys_of_entries read' ▸ distinct')]
      exact related

/-- A map that is read has the keys of the object, in their order. -/
theorem Reading.keys_of_map {f : Reading α} {fields : List (String × Json)}
    (distinct : (fields.map Prod.fst).Nodup) {m : OrderedMap α}
    (h : Reading.map f (.object fields) = some m) : m.keys = fields.map Prod.fst := by
  obtain ⟨entries, read, rfl⟩ := Option.map_eq_some_iff.1 h
  have keys := keys_of_entries read
  rw [OrderedMap.keys, OrderedMap.entries_ofList (keys ▸ distinct), keys]

/-- Plain values are kept as they stand. -/
theorem Reading.map_some_eq_some_iff {value : Json} (regular : value.Regular fun _ => True)
    {m : OrderedMap Json} : Reading.map some value = some m ↔ value = .object m.entries := by
  cases regular with
  | @object fields distinct =>
    have kept : fields.mapM (entry some) = some fields := by
      rw [mapM_eq_some_iff]
      exact List.forall₂_same.2 fun _ _ => rfl
    have entries := OrderedMap.entries_ofList distinct
    simp only [Reading.map, kept, Option.map_some, Option.some.injEq, Json.object.injEq]
    constructor
    · rintro rfl
      exact entries.symm
    · intro same
      exact OrderedMap.ext (entries.trans same)
  | _ => simp [Reading.map]

end Decoder

end ShapeSchema
