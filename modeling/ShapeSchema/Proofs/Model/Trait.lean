import ShapeSchema.Model.Trait
import ShapeSchema.Proofs.Decode.Reading
import ShapeSchema.Proofs.Lists

/-!
# `ShapeSchema.Proofs.Model.Trait`: what a map of traits says

Only a part of what stands in a map of traits counts. A key counts for the trait it denotes, under
its bare name or in the prelude namespace, and most keys denote none. A payload counts for what is
read from it. So a map says, for each name, which payloads it has under that name
(`Trait.payloads`), and the traits that `Trait.parseAll` gives are determined by these lists
(`toOption_parseAll`).

The look-ups take the first trait of a name. `Trait.settled` keeps these and nothing else, in an
order of its own, and no look-up tells the difference.
-/

set_option autoImplicit false

namespace ShapeSchema

open Decoder (Reading)

namespace Trait

/-- The traits of which the payload is read. -/
def payloadNames : List String := ["pattern", "length", "range", "enum", "documentation"]

/-- The name that a trait is declared under. -/
def name : Trait → String
  | .pattern _ => "pattern"
  | .length _ => "length"
  | .range _ => "range"
  | .enum _ => "enum"
  | .documentation _ => "documentation"
  | .required => "required"

/-- The payloads of a trait, under whichever of its names they stand. -/
def payloads (name : String) (entries : List (String × Json)) : List Json :=
  (entries.filter fun e => localName? e.1 == some name).map Prod.snd

/-! ### Payloads -/

/-- The literal that an enum descriptor stands for. -/
def literal? : Json → Option String
  | .string s => some s
  | .object fields => (fields.lookup "value").bind Json.asString?
  | _ => none

/-- The descriptors of an enum payload, in order. -/
def descriptors? : Json → Option (List Json)
  | .array items => some items
  | .object fields => some (fields.map Prod.snd)
  | _ => none

/-- The trait with a name and a payload, if the payload can be read. -/
def ofPayload? (name : String) (payload : Json) : Option Trait :=
  match name with
  | "pattern" => payload.asString?.map .pattern
  | "length" => (Bounds.decoder.reading payload).map .length
  | "range" => (Bounds.decoder.reading payload).map .range
  | "enum" => ((descriptors? payload).bind fun ds => ds.mapM literal?).map .enum
  | "documentation" => payload.asString?.map .documentation
  | "required" => some .required
  | _ => none

/-- A trait has the name that its payload was read under. -/
theorem name_of_ofPayload? {n : String} {payload : Json} {t : Trait}
    (h : ofPayload? n payload = some t) : t.name = n := by
  unfold ofPayload? at h
  split at h
  all_goals first
    | (obtain ⟨_, -, rfl⟩ := Option.map_eq_some_iff.1 h; rfl)
    | (cases h; rfl)
    | cases h

/-- A text is read from a string and from nothing else. -/
theorem toOption_text (owner key : String) (payload : Json) :
    (text owner key payload).toOption = payload.asString? := by
  cases payload <;> rfl

/-- Bounds are read by their decoder, and the rest is the text of an error. -/
theorem toOption_bounds (owner key : String) (payload : Json) :
    (bounds owner key payload).toOption = Bounds.decoder.reading payload := by
  rw [bounds, decodeJson, toOption_mapError, toOption_mapError]
  rfl

/-- A descriptor is read exactly if it stands for a literal. -/
theorem toOption_enumLiteral (owner : String) (descriptor : Json) :
    (enumLiteral owner descriptor).toOption = literal? descriptor := by
  cases descriptor with
  | object fields =>
    rw [enumLiteral, literal?]
    cases fields.lookup "value" with
    | none => rfl
    | some value => cases value <;> rfl
  | _ => rfl

/-- An enum is read exactly if each of its descriptors stands for a literal. -/
theorem toOption_enumLiterals (owner : String) (payload : Json) :
    (enumLiterals owner payload).toOption =
      (descriptors? payload).bind fun ds => ds.mapM literal? := by
  cases payload with
  | array | object => simp [enumLiterals, descriptors?, toOption_enumLiteral, Function.comp_def]
  | _ => rfl

/-! ### Entries -/

/-- Of a name without a payload to read there is a trait only if it is `required`. -/
theorem ofPayload?_of_notMem {n : String} (h : n ∉ payloadNames) (payload : Json) :
    ofPayload? n payload = if n = "required" then some .required else none := by
  simp only [payloadNames, List.mem_cons, List.not_mem_nil, or_false, not_or] at h
  unfold ofPayload?
  split <;> simp_all

/-- An entry that denotes no trait is passed over. One that does is read, and only a payload that is
needed may fail to be. -/
theorem toOption_parse? (owner key : String) (payload : Json) :
    (parse? owner key payload).toOption =
      match localName? key with
      | none => some none
      | some n =>
        if n ∈ payloadNames then (ofPayload? n payload).map some
        else some (ofPayload? n payload) := by
  unfold parse?
  split
  case h_7 =>
    rename_i noPattern noLength noRange noEnum noDocumentation noRequired
    cases found : localName? key with
    | none => rfl
    | some n =>
      -- None of the names that have a payload.
      have unread : n ∉ payloadNames := by
        simp only [payloadNames, List.mem_cons, List.not_mem_nil, or_false]
        rintro (rfl | rfl | rfl | rfl | rfl)
        exacts [noPattern found, noLength found, noRange found, noEnum found,
          noDocumentation found]
      have other : n ≠ "required" := by
        rintro rfl
        exact noRequired found
      simp [unread, ofPayload?_of_notMem unread, other]
  all_goals
    rename_i found
    simp [found, payloadNames, ofPayload?, toOption_text, toOption_bounds, toOption_enumLiterals,
      Function.comp_def]

/-- The payload of an entry can be read, if it has to be. -/
def Readable (entry : String × Json) : Prop :=
  ∀ n ∈ payloadNames, localName? entry.1 = some n → (ofPayload? n entry.2).isSome

/-- The trait that an entry denotes. -/
def ofField? (entry : String × Json) : Option Trait :=
  (localName? entry.1).bind fun n => ofPayload? n entry.2

/-- An entry is parsed exactly if it is readable, and gives the trait that it denotes. -/
theorem parse?_eq_some_iff {owner : String} {entry : String × Json} {t : Option Trait} :
    (parse? owner entry.1 entry.2).toOption = some t ↔ Readable entry ∧ t = ofField? entry := by
  rw [toOption_parse?, Readable, ofField?]
  cases localName? entry.1 with
  | none => simp [@eq_comm _ t]
  | some n =>
    by_cases read : n ∈ payloadNames
    · have alone : (∀ m ∈ payloadNames, some n = some m → (ofPayload? m entry.2).isSome) ↔
          (ofPayload? n entry.2).isSome :=
        ⟨fun h => h n read rfl, fun h m _ same => Option.some.inj same ▸ h⟩
      simp only [if_pos read, alone, Option.bind_some]
      cases ofPayload? n entry.2 <;> simp [@eq_comm _ t]
    · have vacuous : ∀ m ∈ payloadNames, some n = some m → (ofPayload? m entry.2).isSome := by
        rintro m hm same
        exact absurd (Option.some.inj same ▸ hm) read
      simp only [if_neg read, Option.bind_some]
      exact ⟨fun h => ⟨vacuous, (Option.some.inj h).symm⟩, fun h => by rw [h.2]⟩

/-- A map of traits is parsed exactly if its payloads can be read, and gives the traits that its
entries denote. -/
theorem parseAll_eq_ok_iff {owner : String} {raw : OrderedMap Json} {traits : List Trait} :
    parseAll owner raw = .ok traits ↔
      (∀ e ∈ raw.entries, Readable e) ∧ traits = raw.entries.filterMap ofField? := by
  -- All entries are read if each is, and what does not name a trait is dropped.
  have each (parsed : List (Option Trait)) :
      raw.entries.mapM (fun e => (parse? owner e.1 e.2).toOption) = some parsed ↔
        (∀ e ∈ raw.entries, Readable e) ∧ parsed = raw.entries.map ofField? := by
    have images : List.Forall₂ (fun e t => t = ofField? e) raw.entries parsed ↔
        parsed = raw.entries.map ofField? := by
      rw [← List.forall₂_eq_eq_eq, List.forall₂_map_right_iff]
      exact ⟨List.Forall₂.flip, List.Forall₂.flip⟩
    rw [mapM_eq_some_iff, ← images, ← List.forall₂_and_left]
    simp only [parse?_eq_some_iff]
  rw [← toOption_eq_some_iff, parseAll]
  simp only [toOption_bind, toOption_mapM, toOption_pure, Option.bind_eq_some_iff, each,
    Option.some.injEq]
  constructor
  · rintro ⟨parsed, ⟨readable, rfl⟩, rfl⟩
    exact ⟨readable, by simp [List.filterMap_map]⟩
  · rintro ⟨readable, rfl⟩
    exact ⟨_, ⟨readable, rfl⟩, by simp [List.filterMap_map]⟩

/-! ### Payloads by name -/

/-- The payloads of a name are those of the entries that denote it. -/
theorem mem_payloads {n : String} {entries : List (String × Json)} {payload : Json} :
    payload ∈ payloads n entries ↔ ∃ e ∈ entries, localName? e.1 = some n ∧ e.2 = payload := by
  simp [payloads]

/-- An entry adds its payload to the name it denotes, and to no other. -/
theorem payloads_cons (n : String) (e : String × Json) (entries : List (String × Json)) :
    payloads n (e :: entries) =
      if localName? e.1 = some n then e.2 :: payloads n entries else payloads n entries := by
  by_cases denotes : localName? e.1 = some n <;> simp [payloads, denotes]

/-- A map is readable exactly if, name by name, its payloads are. -/
theorem readable_iff {entries : List (String × Json)} :
    (∀ e ∈ entries, Readable e) ↔
      ∀ n ∈ payloadNames, ∀ payload ∈ payloads n entries, (ofPayload? n payload).isSome := by
  simp only [mem_payloads]
  constructor
  · rintro h n hn _ ⟨e, he, denotes, rfl⟩
    exact h e he n hn denotes
  · intro h e he n hn denotes
    exact h n hn e.2 ⟨e, he, denotes, rfl⟩

/-- The first trait with a name comes from the payloads under that name. -/
theorem find?_ofEntries (n : String) (entries : List (String × Json)) :
    (entries.filterMap ofField?).find? (fun t => t.name == n) =
      (payloads n entries).findSome? (ofPayload? n) := by
  induction entries with
  | nil => rfl
  | cons e entries ih =>
    -- On the entries: only those whose key denotes the name can give the trait.
    by_cases denotes : localName? e.1 = some n
    · have here : payloads n (e :: entries) = e.2 :: payloads n entries := by
        rw [payloads_cons, if_pos denotes]
      have trait : ofField? e = ofPayload? n e.2 := by simp [ofField?, denotes]
      rw [here, List.filterMap_cons, List.findSome?_cons, trait, ← ih]
      cases read : ofPayload? n e.2 with
      | none => rfl
      | some t => simp [name_of_ofPayload? read]
    · have skipped : payloads n (e :: entries) = payloads n entries := by
        rw [payloads_cons, if_neg denotes]
      rw [skipped, List.filterMap_cons, ← ih]
      cases trait : ofField? e with
      | none => rfl
      | some t =>
        obtain ⟨m, hm, read⟩ := Option.bind_eq_some_iff.1 trait
        have other : t.name ≠ n := by
          rw [name_of_ofPayload? read]
          rintro rfl
          exact denotes hm
        simp [other]

/-- A map has the trait `required` exactly if it has a payload for it, whichever that is. -/
theorem isRequired_ofEntries (entries : List (String × Json)) :
    isRequired (entries.filterMap ofField?) = !(payloads "required" entries).isEmpty := by
  have named (t : Trait) : t = .required ↔ t.name = "required" := by
    cases t <;> simp [name]
  have found : isRequired (entries.filterMap ofField?) = true ↔
      ((entries.filterMap ofField?).find? fun t => t.name == "required").isSome = true := by
    simp only [isRequired, List.contains_iff_mem, List.find?_isSome, beq_iff_eq]
    exact ⟨fun h => ⟨_, h, rfl⟩, fun ⟨t, ht, h⟩ => (named t).2 h ▸ ht⟩
  rw [Bool.eq_iff_iff, found, find?_ofEntries]
  cases payloads "required" entries with
  | nil => simp
  | cons payload rest => simp [ofPayload?]

/-- The trait `required` is there if a key denotes it, whatever its payload. -/
theorem isRequired_of_parseAll {owner : String} {raw : OrderedMap Json} {traits : List Trait}
    (parsed : parseAll owner raw = .ok traits) :
    isRequired traits = true ↔ payloads "required" raw.entries ≠ [] := by
  obtain ⟨-, rfl⟩ := parseAll_eq_ok_iff.1 parsed
  simp [isRequired_ofEntries]

/-! ### The first of each name -/

/-- The first trait of each name, without `required`. -/
def settled (traits : List Trait) : List Trait :=
  payloadNames.filterMap fun n => traits.find? fun t => t.name == n

/-- Settling keeps the first trait of every name with a payload. -/
theorem find?_settled {n : String} (h : n ∈ payloadNames) (traits : List Trait) :
    (settled traits).find? (fun t => t.name == n) = traits.find? fun t => t.name == n := by
  -- Each name gives at most one trait, and that trait has the name.
  have only (m : String) : (traits.find? fun t => t.name == m).any (fun t => t.name == n) =
      (m == n && (traits.find? fun t => t.name == n).isSome) := by
    by_cases same : m = n
    · subst same
      cases found : traits.find? fun t => t.name == m with
      | none => simp
      | some t =>
        have named := List.find?_some found
        simpa using named
    · cases found : traits.find? fun t => t.name == m with
      | none => simp [same]
      | some t =>
        have named : t.name = m := by simpa using List.find?_some found
        simp [same, named]
  rw [settled, List.find?_filterMap]
  simp only [only]
  cases found : traits.find? fun t => t.name == n with
  | none =>
    have nowhere : payloadNames.find? (fun m => m == n && (none : Option Trait).isSome) = none := by
      simp
    rw [nowhere, Option.bind_none]
  | some t =>
    cases here : payloadNames.find? fun m => m == n && (some t).isSome with
    | none =>
      have missed := List.find?_eq_none.1 here n h
      simp at missed
    | some m =>
      obtain rfl : m = n := by simpa using List.find?_some here
      rw [Option.bind_some, found]

/-- A look-up that asks for the traits of one name looks at the first of them. -/
theorem findSome?_of_named {α : Type} {n : String} {f : Trait → Option α}
    (named : ∀ t, (f t).isSome = (t.name == n)) (traits : List Trait) :
    traits.findSome? f = (traits.find? fun t => t.name == n).bind f := by
  induction traits with
  | nil => rfl
  | cons t ts ih =>
    rw [List.findSome?_cons, List.find?_cons, ih, ← named]
    cases answer : f t <;> simp [answer]

/-- A look-up that asks for the traits of one name finds the same among the settled traits. -/
theorem findSome?_settled {α : Type} {n : String} (h : n ∈ payloadNames) {f : Trait → Option α}
    (named : ∀ t, (f t).isSome = (t.name == n)) (traits : List Trait) :
    (settled traits).findSome? f = traits.findSome? f := by
  rw [findSome?_of_named named, findSome?_of_named named, find?_settled h]

/-- Settled traits have the pattern that the traits had. -/
@[simp] theorem pattern?_settled (traits : List Trait) :
    pattern? (settled traits) = pattern? traits :=
  findSome?_settled (n := "pattern") (by decide) (fun t => by cases t <;> rfl) traits

/-- They have the same bounds of the length. -/
@[simp] theorem length?_settled (traits : List Trait) :
    length? (settled traits) = length? traits :=
  findSome?_settled (n := "length") (by decide) (fun t => by cases t <;> rfl) traits

/-- They have the same bounds of the value. -/
@[simp] theorem range?_settled (traits : List Trait) : range? (settled traits) = range? traits :=
  findSome?_settled (n := "range") (by decide) (fun t => by cases t <;> rfl) traits

/-- They have the same literals. -/
@[simp] theorem enum?_settled (traits : List Trait) : enum? (settled traits) = enum? traits :=
  findSome?_settled (n := "enum") (by decide) (fun t => by cases t <;> rfl) traits

/-- They have the same documentation. -/
@[simp] theorem documentation?_settled (traits : List Trait) :
    documentation? (settled traits) = documentation? traits :=
  findSome?_settled (n := "documentation") (by decide) (fun t => by cases t <;> rfl) traits

end Trait

end ShapeSchema
