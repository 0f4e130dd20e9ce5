import ShapeSchema.Proofs.Double.Rounding
import ShapeSchema.Proofs.Model.Declaration
import ShapeSchema.Proofs.Model.Trait
import ShapeSchema.Proofs.Schema.Request
import ShapeSchema.Proofs.Schema.Violation

/-!
# `ShapeSchema.Proofs.Schema.Range`: the range of an integer shape

The bounds of a range are written as integers and read as binary64 numbers, and the integer that is
checked is converted in the same way. The whole path is followed here: from a document that declares
the shape (`DeclaresRange`) to the shape in its registry (`DeclaresRange.hasRange`), to the node of
the shape (`node_of_hasRange`), and to what is found wrong with an integer
(`violations_integer_eq_nil_iff`).

Conversion keeps the order, so an integer of the range passes. One that is out of the range passes
too if it becomes the same number as the bound that it is beyond (`Blurred`), for which both have to
be `2 ^ 53` or more in magnitude. `range_checked` says that this is the only exception, and
`Limit.beyond_passes` that there is one.
-/

set_option autoImplicit false

namespace ShapeSchema

open Decoder (Faithful Reading reads_double)

/-! ### Bounds as they are written -/

namespace Bounds

/-- An integer, or null in the place of none. -/
def written : Option WordInt → Json
  | none => .null
  | some b => .number (.int b)

/-- A bound as it is read. -/
def read (bound : Option WordInt) : Option Double := bound.map fun b => Double.ofInt b.val

/-- The fields of bounds, in the order in which an array has them. -/
def fields : List (Decoder.Field Bounds) :=
  [.optional "min" (.option .double) fun v b => { b with min := v },
   .optional "max" (.option .double) fun v b => { b with max := v }]

/-- Each field of bounds is read from the value that its tree holds. -/
theorem faithful_fields : ∀ f ∈ fields, Faithful f.read := by
  simp only [fields, List.forall_mem_cons]
  exact ⟨(reads_double.option.set _).faithful, (reads_double.option.set _).faithful, by simp⟩

/-- The fields of bounds may be written in either order. -/
theorem commuting_fields : fields.Pairwise Decoder.Field.Commutes := by
  simp only [fields, List.pairwise_cons, List.forall_mem_cons]
  refine ⟨⟨?_, by simp⟩, by simp⟩
  exact (Decoder.Field.sets_optional _ _ _).commutes (Decoder.Field.sets_optional _ _ _)
    fun _ _ _ => rfl

/-- Bounds are read from their two parts, of which none is needed. -/
theorem reading_eq {value : Json} (regular : value.Regular fun _ => True) :
    Bounds.decoder.reading value =
      if value.isRecord 2 then do
        let min ← Reading.option Reading.double (value.partOr 0 "min" .null)
        let max ← Reading.option Reading.double (value.partOr 1 "max" .null)
        return ⟨min, max⟩
      else none := by
  show (Decoder.record "Bounds" fields {}).reading value = _
  rw [Decoder.reading_record _ faithful_fields (by decide) commuting_fields _ regular, fields,
    Reading.gather_optional regular reads_double.option .null rfl rfl fun _ =>
      Reading.gather_optional regular reads_double.option .null rfl rfl fun _ => rfl]
  rfl

/-- A number, or null in the place of none. -/
def number : Option Json.Number → Json
  | none => .null
  | some n => .number n

/-- Bounds that are numbers are converted, one by one. -/
theorem reading_number {value : Json} (regular : value.Regular fun _ => True)
    {lo hi : Option Json.Number} (min : value.partOr 0 "min" .null = number lo)
    (max : value.partOr 1 "max" .null = number hi) {b : Bounds}
    (reads : Bounds.decoder.reading value = some b) :
    b = ⟨lo.map Json.Number.toDouble, hi.map Json.Number.toDouble⟩ := by
  have option (bound : Option Json.Number) :
      Reading.option Reading.double (number bound) = some (bound.map Json.Number.toDouble) := by
    cases bound <;> rfl
  rw [reading_eq regular] at reads
  split at reads
  · rw [min, max, option, option] at reads
    exact (Option.some.inj reads).symm
  · cases reads

/-- Bounds that are integers are converted to the nearest binary64 numbers. -/
theorem reading_written {value : Json} (regular : value.Regular fun _ => True)
    {lo hi : Option WordInt} (min : value.partOr 0 "min" .null = written lo)
    (max : value.partOr 1 "max" .null = written hi) {b : Bounds}
    (reads : Bounds.decoder.reading value = some b) : b = ⟨read lo, read hi⟩ := by
  have integers (bound : Option WordInt) : written bound = number (bound.map .int) := by
    cases bound <;> rfl
  rw [integers] at min max
  rw [reading_number regular min max reads, Option.map_map, Option.map_map]
  rfl

end Bounds

/-- The kinds of integers. -/
def Kind.integers : List Kind := [.byte, .short, .integer, .long, .bigInteger]

/-- There are five kinds of integers. -/
theorem Kind.mem_integers_iff {k : Kind} : k ∈ integers ↔
    k = .byte ∨ k = .short ∨ k = .integer ∨ k = .long ∨ k = .bigInteger := by
  simp [integers]

/-- The kinds of numbers. -/
def Kind.numbers : List Kind := integers ++ [.float, .double, .bigDecimal]

/-- A kind of numbers is one of integers or one of three others. -/
theorem Kind.mem_numbers_iff {k : Kind} :
    k ∈ numbers ↔ k ∈ integers ∨ k = .float ∨ k = .double ∨ k = .bigDecimal := by
  simp [numbers]

/-- A document declares a shape of an integer kind, and its range has these integer bounds. Where
the trait is written under both of its names, the first one counts. -/
inductive DeclaresRange (document : Json) (id : String) (lo hi : Option WordInt) : Prop where
  | intro {shapes traits : List (String × Json)} {declaration payload : Json} {tag : String}
      (declared : document.part? 1 "shapes" = some (.object shapes))
      (found : shapes.lookup id = some declaration)
      (tagged : declaration.part? 0 "type" = some (.string tag))
      (integer : Kind.ofTag tag ∈ Kind.integers)
      (traited : declaration.part? 6 "traits" = some (.object traits))
      (ranged : (Trait.payloads "range" traits).head? = some payload)
      (min : payload.partOr 0 "min" .null = Bounds.written lo)
      (max : payload.partOr 1 "max" .null = Bounds.written hi)

/-! ### From the document to the shape -/

/-- What a value in memory is decoded to is what is read from it. -/
theorem reading_of_decodeJson {α : Type} {read : Decoder α} {value : Json} {a : α}
    (h : decodeJson read value = .ok a) : read.reading value = some a :=
  toOption_eq_some_iff.2 (mapError_eq_ok_iff.1 h)

/-- The declarations of a document are read one by one. -/
theorem Document.shapes_of_reading {document : Json} (regular : document.Regular fun _ => True)
    {shapes : List (String × Json)}
    (declared : document.part? 1 "shapes" = some (.object shapes)) {d : Document}
    (reads : Document.decoder.reading document = some d) :
    ∃ declarations, d.shapes = some declarations ∧
      List.Forall₂ (fun e x => e.1 = x.1 ∧ Declaration.decoder.reading e.2 = some x.2)
        shapes declarations.entries := by
  have written : document.partOr 1 "shapes" .null = .object shapes := by
    rw [Json.partOr, declared, Option.getD_some]
  have distinct : (shapes.map Prod.fst).Nodup := by
    cases regular.part declared with
    | object distinct => exact distinct
  rw [Document.reading_eq regular, written] at reads
  split at reads
  · obtain ⟨version, -, rest⟩ := Option.bind_eq_some_iff.1 reads
    obtain ⟨option, map, last⟩ := Option.bind_eq_some_iff.1 rest
    obtain ⟨declarations, entries, rfl⟩ := Option.map_eq_some_iff.1 map
    cases last
    obtain ⟨read, each, rfl⟩ := Option.map_eq_some_iff.1 entries
    refine ⟨_, rfl, ?_⟩
    -- No name is repeated, so the table has every entry, in order.
    rw [OrderedMap.entries_ofList (Reading.keys_of_entries each ▸ distinct)]
    refine (mapM_eq_some_iff.1 each).imp fun e x entry => ?_
    obtain ⟨inner, answer, rfl⟩ := Option.map_eq_some_iff.1 entry
    exact ⟨rfl, answer⟩
  · cases reads

namespace Registry

/-- A declaration that stands in a document is read, resolved, and held under its id. -/
theorem get?_of_load {document : Json} (regular : document.Regular fun _ => True)
    {r : Registry} (loaded : load document = .ok r) {shapes : List (String × Json)}
    (declared : document.part? 1 "shapes" = some (.object shapes)) {id : String}
    {declaration : Json} (found : shapes.lookup id = some declaration) :
    ∃ d s, Declaration.decoder.reading declaration = some d ∧ Shape.resolve id d = .ok s ∧
      r.get? id = some s := by
  obtain ⟨_, decoded, made⟩ := except_bind_ok loaded
  have reads := reading_of_decodeJson (mapError_eq_ok_iff.1 decoded)
  obtain ⟨_, known, read⟩ := Document.shapes_of_reading regular declared reads
  obtain ⟨⟨_, d⟩, held, rfl, answer⟩ := exists_of_forall₂ read (Entries.mem_of_lookup found)
  obtain ⟨⟨_, s⟩, mem, rfl, resolves⟩ := exists_of_forall₂ (entries_ofDocument made known) held
  exact ⟨d, s, answer, resolves, OrderedMap.get?_eq_some_iff.2 mem⟩

/-- The shapes of a document stand in the order in which they are written. -/
theorem keys_of_load {document : Json} (regular : document.Regular fun _ => True)
    {r : Registry} (loaded : load document = .ok r) {shapes : List (String × Json)}
    (declared : document.part? 1 "shapes" = some (.object shapes)) :
    r.shapes.keys = shapes.map Prod.fst := by
  obtain ⟨_, decoded, made⟩ := except_bind_ok loaded
  have reads := reading_of_decodeJson (mapError_eq_ok_iff.1 decoded)
  obtain ⟨declarations, known, read⟩ := Document.shapes_of_reading regular declared reads
  have resolved := map_eq_of_forall₂ (fun _ _ same => same.1) (entries_ofDocument made known)
  have written := map_eq_of_forall₂ (fun _ _ same => same.1) read
  exact (written.trans resolved).symm

end Registry

/-- A declaration keeps its tag and the entries of its traits. -/
theorem Declaration.of_reading {value : Json} (regular : value.Regular fun _ => True)
    {tag : String} (tagged : value.part? 0 "type" = some (.string tag))
    {traits : List (String × Json)} (traited : value.part? 6 "traits" = some (.object traits))
    {d : Declaration} (reads : Declaration.decoder.reading value = some d) :
    d.kind = tag ∧ d.traits.entries = traits := by
  have written : value.partOr 6 "traits" (.object []) = .object traits := by
    rw [Json.partOr, traited, Option.getD_some]
  rw [Declaration.reading_eq regular, tagged, written] at reads
  split at reads
  · -- The parts are read one after the other, the traits as the seventh.
    obtain ⟨kind, same, reads⟩ := Option.bind_eq_some_iff.1 reads
    iterate 5 obtain ⟨_, -, reads⟩ := Option.bind_eq_some_iff.1 reads
    obtain ⟨entries, kept, reads⟩ := Option.bind_eq_some_iff.1 reads
    iterate 4 obtain ⟨_, -, reads⟩ := Option.bind_eq_some_iff.1 reads
    cases reads
    have plain := (Reading.map_some_eq_some_iff (regular.part traited)).1 kept
    exact ⟨(Option.some.inj same).symm, (Json.object.inj plain).symm⟩
  · cases reads

/-- The first trait of a name is what is read from the first payload for it. -/
theorem Trait.find?_of_parseAll {owner : String} {raw : OrderedMap Json} {traits : List Trait}
    (parsed : parseAll owner raw = .ok traits) {n : String} (known : n ∈ payloadNames)
    {payload : Json} (first : (payloads n raw.entries).head? = some payload) :
    ∃ t, ofPayload? n payload = some t ∧ traits.find? (fun t => t.name == n) = some t := by
  obtain ⟨readable, rfl⟩ := parseAll_eq_ok_iff.1 parsed
  obtain ⟨rest, payloads⟩ := List.head?_eq_some_iff.1 first
  have answers := readable_iff.1 readable n known payload (by simp [payloads])
  obtain ⟨t, answer⟩ := Option.isSome_iff_exists.1 answers
  exact ⟨t, answer, by rw [find?_ofEntries, payloads, List.findSome?_cons, answer]⟩

/-- The bounds of a range are read from the first payload for it. -/
theorem Trait.range?_of_parseAll {owner : String} {raw : OrderedMap Json} {traits : List Trait}
    (parsed : parseAll owner raw = .ok traits) {payload : Json}
    (first : (payloads "range" raw.entries).head? = some payload) :
    ∃ b, Bounds.decoder.reading payload = some b ∧ range? traits = some b := by
  obtain ⟨t, answer, found⟩ := find?_of_parseAll parsed (by decide) first
  obtain ⟨b, reads, rfl⟩ := Option.map_eq_some_iff.1 answer
  refine ⟨b, reads, ?_⟩
  rw [range?, findSome?_of_named (n := "range") fun t => by cases t <;> rfl, found]
  rfl

/-- An integer shape whose range has these bounds. -/
structure Shape.HasRange (s : Shape) (lo hi : Option WordInt) : Prop where
  integer : s.kind ∈ Kind.integers
  range : Trait.range? s.traits = some ⟨Bounds.read lo, Bounds.read hi⟩

section Declared

variable {document : Json} (regular : document.Regular fun _ => True) {id tag : String}
  {shapes traits : List (String × Json)} {declaration : Json}
  (declared : document.part? 1 "shapes" = some (.object shapes))
  (found : shapes.lookup id = some declaration)

include regular declared found

/-- The registry of a document has a declared shape under its id, of the kind that its tag names and
with the traits that its entries for them give. -/
theorem Registry.traits_of_load {r : Registry} (loaded : Registry.load document = .ok r)
    (tagged : declaration.part? 0 "type" = some (.string tag))
    (traited : declaration.part? 6 "traits" = some (.object traits)) :
    ∃ s, r.get? id = some s ∧ s.kind = Kind.ofTag tag ∧
      ∃ owner raw, raw.entries = traits ∧ Trait.parseAll owner raw = .ok s.traits := by
  obtain ⟨d, s, reads, resolves, held⟩ := Registry.get?_of_load regular loaded declared found
  have step : (Json.object shapes).part? 0 id = some declaration := found
  have inner := (regular.part declared).part step
  obtain ⟨rfl, rfl⟩ := Declaration.of_reading inner tagged traited reads
  have resolved := Shape.resolved_of_resolve resolves
  exact ⟨s, held, resolved.kind, _, _, rfl, resolved.traits⟩

/-- A payload is an entry of the traits, so it repeats no key either. -/
theorem Trait.regular_payload (traited : declaration.part? 6 "traits" = some (.object traits))
    {n : String} {payload : Json} (first : (Trait.payloads n traits).head? = some payload) :
    payload.Regular fun _ => True := by
  have step : (Json.object shapes).part? 0 id = some declaration := found
  have inner := (regular.part declared).part step
  obtain ⟨e, mem, -, rfl⟩ := Trait.mem_payloads.1 (List.mem_of_mem_head? first)
  cases inner.part traited with
  | object _ values => exact values e mem

end Declared

/-- The registry of a document has the shapes that the document declares, with their ranges. -/
theorem DeclaresRange.hasRange {document : Json} (regular : document.Regular fun _ => True)
    {r : Registry} (loaded : Registry.load document = .ok r) {id : String} {lo hi : Option WordInt}
    (declares : DeclaresRange document id lo hi) : ∃ s, r.get? id = some s ∧ s.HasRange lo hi := by
  obtain ⟨declared, found, tagged, integer, traited, ranged, min, max⟩ := declares
  obtain ⟨s, held, kind, owner, raw, rfl, parsed⟩ :=
    Registry.traits_of_load regular declared found loaded tagged traited
  obtain ⟨b, read, range⟩ := Trait.range?_of_parseAll parsed ranged
  have whole := Trait.regular_payload regular declared found traited ranged
  exact ⟨s, held, kind ▸ integer, by rw [range, Bounds.reading_written whole min max read]⟩

/-! ### From the shape to the node -/

/-- Bounds in order are in order when they are converted. -/
theorem Bounds.ordered_read {lo hi : Option WordInt}
    (ordered : ∀ a ∈ lo, ∀ b ∈ hi, a.val ≤ b.val) : Bounds.Ordered ⟨read lo, read hi⟩ := by
  intro x memX y memY
  obtain ⟨a, memA, rfl⟩ := Option.map_eq_some_iff.1 memX
  obtain ⟨b, memB, rfl⟩ := Option.map_eq_some_iff.1 memY
  exact Double.units_ofInt_le a.natAbs_le b.natAbs_le (ordered a memA b memB)

/-- A range that is taken is the one that is declared. -/
theorem rangeConstraint_eq {shape : String} {traits : List Trait} {bounds range : Bounds}
    (declared : Trait.range? traits = some bounds)
    (made : rangeConstraint shape traits = .ok range) : range = bounds := by
  rw [rangeConstraint, declared] at made
  dsimp only at made
  split at made
  · split at made
    · cases made
    · exact (Except.ok.inj made).symm
  · exact (Except.ok.inj made).symm

namespace Shape

variable {s : Shape}

section Number

variable (numeric : s.kind ∈ Kind.numbers)

include numeric

/-- Numbers lead to nothing. -/
theorem slots_of_number : s.slots = [] := by
  unfold slots
  rcases Kind.mem_numbers_iff.1 numeric with integer | kind | kind | kind
  · rcases Kind.mem_integers_iff.1 integer with kind | kind | kind | kind | kind <;> rw [kind]
  all_goals rw [kind]

/-- The node of a number takes integers only if the kind is one of integers. -/
theorem node_of_number (refs : List Ref) :
    s.node refs = s.numberNode (decide (s.kind ∈ Kind.integers)) := by
  unfold node
  rcases Kind.mem_numbers_iff.1 numeric with integer | kind | kind | kind
  · rw [decide_eq_true integer]
    rcases Kind.mem_integers_iff.1 integer with kind | kind | kind | kind | kind <;> rw [kind]
  all_goals
    rw [kind]
    rfl

/-- A number with bounds in order is valid. -/
theorem valid_of_number (ordered : ∀ b ∈ Trait.range? s.traits, b.Ordered) :
    s.kind.isSupported = true ∧ s.Valid := by
  unfold Valid
  rcases Kind.mem_numbers_iff.1 numeric with integer | kind | kind | kind
  · rcases Kind.mem_integers_iff.1 integer with kind | kind | kind | kind | kind <;> rw [kind] <;>
      exact ⟨rfl, ordered⟩
  all_goals
    rw [kind]
    exact ⟨rfl, ordered⟩

end Number

/-- A shape of numbers, the range of which has these bounds. -/
structure HasBounds (s : Shape) (bounds : Bounds) : Prop where
  numeric : s.kind ∈ Kind.numbers
  range : Trait.range? s.traits = some bounds

/-- Bounds in order are all that the shape needs for a node. -/
theorem HasBounds.valid {bounds : Bounds} (h : s.HasBounds bounds) (ordered : bounds.Ordered) :
    s.kind.isSupported = true ∧ s.Valid := by
  refine valid_of_number h.numeric ?_
  rw [h.range]
  intro b mem
  cases Option.mem_some_iff.1 mem
  exact ordered

/-- The node has the bounds of the range. -/
theorem HasBounds.node {bounds : Bounds} (h : s.HasBounds bounds) {refs : List Ref}
    {node : Node} {diagnostics : List Diagnostic} (made : s.node refs = .ok (node, diagnostics)) :
    node = .number (decide (s.kind ∈ Kind.integers)) bounds.min bounds.max := by
  rw [node_of_number h.numeric] at made
  obtain ⟨range, constraint, rfl⟩ := image_of_numberNode made
  rw [rangeConstraint_eq h.range constraint]

/-- A range of integers is one of numbers. -/
theorem HasRange.hasBounds {lo hi : Option WordInt} (h : s.HasRange lo hi) :
    s.HasBounds ⟨Bounds.read lo, Bounds.read hi⟩ :=
  ⟨Kind.mem_numbers_iff.2 (.inl h.integer), h.range⟩

end Shape

namespace Compiler

/-- An id that has nothing inadmissible in reach is indexed once it was asked for, whatever else a
session does. -/
theorem indexed_of_mem {r : Registry} (loaded : r.IsLoaded) {id : String}
    (admitted : ∀ x, r.Reaches id x → r.Admits x) {ids : List String} (mem : id ∈ ids) :
    ∃ ref, (session r ids).index.get? id = some ref := by
  obtain ⟨before, after, rfl⟩ := List.append_of_mem mem
  obtain ⟨ref, answer⟩ := (compile_ok_iff_admits loaded before id).2 admitted
  have indexed := indexed_of_compile (session_sound r before) answer
  rw [← session_append] at indexed
  have grown := session_grows r (before ++ [id]) after
  rw [List.append_assoc] at grown
  exact ⟨ref, grown.get? indexed⟩

end Compiler

/-- A shape without targets reaches nothing but itself. -/
theorem Registry.eq_of_reaches {r : Registry} {id x : String} {s : Shape}
    (shape : r.shape? id = some s) (flat : s.slots = []) (chain : r.Reaches id x) : x = id := by
  induction chain with
  | refl => rfl
  | step _ resolved target same =>
    cases same
    rw [Registry.resolves_iff, shape] at resolved
    cases resolved
    rw [flat] at target
    cases target

/-- A shape of numbers with bounds in order has nothing inadmissible in reach. -/
theorem Registry.admits_of_hasBounds {r : Registry} (loaded : r.IsLoaded) {id : String} {s : Shape}
    (held : r.get? id = some s) {bounds : Bounds} (ranged : s.HasBounds bounds)
    (ordered : bounds.Ordered) : ∀ x, r.Reaches id x → r.Admits x := by
  have shape : r.shape? id = some s := by rw [Registry.shape?, held, Option.some_or]
  intro x chain
  have alone := Registry.eq_of_reaches shape (Shape.slots_of_number ranged.numeric) chain
  rw [alone, Registry.admits_iff loaded]
  exact ⟨s, Registry.resolves_iff.2 shape, ranged.valid ordered⟩

/-- In every session that asks for a shape of numbers with bounds in order, the shape has a node
with those bounds. -/
theorem node_of_hasBounds {r : Registry} (loaded : r.IsLoaded) {id : String} {s : Shape}
    (held : r.get? id = some s) {bounds : Bounds} (ranged : s.HasBounds bounds)
    (ordered : bounds.Ordered) {ids : List String} (mem : id ∈ ids) :
    ∃ root, (Compiler.session r ids).finish.get? id = some root ∧
      (Compiler.session r ids).finish.node root =
        .number (decide (s.kind ∈ Kind.integers)) bounds.min bounds.max := by
  have admitted := Registry.admits_of_hasBounds loaded held ranged ordered
  obtain ⟨root, indexed⟩ := Compiler.indexed_of_mem loaded admitted mem
  obtain ⟨s', held', refs, diagnostics, -, made⟩ := (Compiler.session_sound r ids).built indexed
  rw [(Compiler.session_registry r ids).get? held] at held'
  cases held'
  exact ⟨root, indexed, ranged.node made⟩

/-- In every session that asks for an integer shape with a range the shape has a node with that
range. -/
theorem node_of_hasRange {r : Registry} (loaded : r.IsLoaded) {id : String} {s : Shape}
    (held : r.get? id = some s) {lo hi : Option WordInt} (ranged : s.HasRange lo hi)
    (ordered : ∀ a ∈ lo, ∀ b ∈ hi, a.val ≤ b.val) {ids : List String} (mem : id ∈ ids) :
    ∃ root, (Compiler.session r ids).finish.get? id = some root ∧
      (Compiler.session r ids).finish.node root =
        .number true (Bounds.read lo) (Bounds.read hi) := by
  obtain ⟨root, found, node⟩ :=
    node_of_hasBounds loaded held ranged.hasBounds (Bounds.ordered_read ordered) mem
  rw [decide_eq_true ranged.integer] at node
  exact ⟨root, found, node⟩

/-! ### What is found wrong with an integer -/

/-- Whether an integer is in a range. -/
def InRange (lo hi : Option WordInt) (n : WordInt) : Prop :=
  (∀ a ∈ lo, a.val ≤ n.val) ∧ ∀ b ∈ hi, n.val ≤ b.val

/-- Large integers that are one number in binary64. -/
structure Blurred (a b : WordInt) : Prop where
  same : (Double.ofInt a.val).units = (Double.ofInt b.val).units
  large : 0x20000000000000 ≤ a.val.natAbs
  large' : 0x20000000000000 ≤ b.val.natAbs

/-- Where one of two integers is small enough, conversion does not confuse them. -/
theorem not_blurred {a b : WordInt}
    (small : a.val.natAbs < 0x20000000000000 ∨ b.val.natAbs < 0x20000000000000) :
    ¬ Blurred a b := by
  rintro ⟨-, large, large'⟩
  omega

/-- Converted integers are in order if the integers are, or if the two are blurred. -/
theorem units_ofInt_le_iff {a b : WordInt} :
    (Double.ofInt a.val).units ≤ (Double.ofInt b.val).units ↔ a.val ≤ b.val ∨ Blurred a b := by
  constructor
  · intro le
    by_cases ordered : a.val ≤ b.val
    · exact .inl ordered
    · -- The order is kept the other way round, so the two have become equal.
      have ge := Double.units_ofInt_le b.natAbs_le a.natAbs_le (by omega)
      have same := Int.le_antisymm le ge
      obtain ⟨large, large'⟩ :=
        Double.le_natAbs_of_units_eq a.natAbs_le b.natAbs_le (by omega) same
      exact .inr ⟨same, large, large'⟩
  · rintro (ordered | blurred)
    · exact Double.units_ofInt_le a.natAbs_le b.natAbs_le ordered
    · exact Int.le_of_eq blurred.same

namespace CompiledModel

/-- The shape has a node, and an integer passes exactly if it is within each bound, or blurred with
the bound that it is beyond. Unless the integer and some bound both reach `2 ^ 53` in magnitude, it
passes exactly if it is in the range. -/
def ChecksRange (m : CompiledModel) (id : String) (lo hi : Option WordInt) : Prop :=
  ∃ root, m.get? id = some root ∧ ∀ n : WordInt,
    (m.violations root (.number (.int n)) = [] ↔
      (∀ a ∈ lo, a.val ≤ n.val ∨ Blurred a n) ∧ ∀ b ∈ hi, n.val ≤ b.val ∨ Blurred n b) ∧
    ((∀ b, b ∈ lo ∨ b ∈ hi → b.val.natAbs < 0x20000000000000 ∨ n.val.natAbs < 0x20000000000000) →
      (m.violations root (.number (.int n)) = [] ↔ InRange lo hi n))

/-- An integer has no violation exactly if it keeps each bound or is confused with it. -/
theorem violations_integer_eq_nil_iff {m : CompiledModel} {root : Ref} {lo hi : Option WordInt}
    (hnode : m.node root = .number true (Bounds.read lo) (Bounds.read hi)) (n : WordInt) :
    m.violations root (.number (.int n)) = [] ↔
      (∀ a ∈ lo, a.val ≤ n.val ∨ Blurred a n) ∧ ∀ b ∈ hi, n.val ≤ b.val ∨ Blurred n b := by
  -- An integer of a word stays one when it is rounded, so only the bounds count.
  have integral : (Double.ofInt n.val).isIntegral = true := Double.isIntegral_ofInt n.natAbs_le
  rw [violations, Json.violations]
  simp only [hnode, numberViolations_eq_nil_iff, Json.Number.toDouble, integral, implies_true,
    true_and, Bounds.read, ← units_ofInt_le_iff]
  constructor
  · rintro ⟨min, max⟩
    exact ⟨fun a mem => min _ (Option.map_eq_some_iff.2 ⟨a, mem, rfl⟩),
      fun b mem => max _ (Option.map_eq_some_iff.2 ⟨b, mem, rfl⟩)⟩
  · rintro ⟨min, max⟩
    constructor
    · intro x read
      obtain ⟨a, mem, rfl⟩ := Option.map_eq_some_iff.1 read
      exact min a mem
    · intro x read
      obtain ⟨b, mem, rfl⟩ := Option.map_eq_some_iff.1 read
      exact max b mem

/-- A node with the converted bounds checks the range. -/
theorem checksRange_of_node {m : CompiledModel} {id : String} {root : Ref} {lo hi : Option WordInt}
    (found : m.get? id = some root)
    (hnode : m.node root = .number true (Bounds.read lo) (Bounds.read hi)) :
    m.ChecksRange id lo hi := by
  refine ⟨root, found, fun n => ?_⟩
  have verdict := violations_integer_eq_nil_iff hnode n
  refine ⟨verdict, fun sharp => verdict.trans ⟨?_, ?_⟩⟩
  · rintro ⟨min, max⟩
    exact ⟨fun a mem => (min a mem).resolve_right (not_blurred (sharp a (.inl mem))),
      fun b mem => (max b mem).resolve_right (not_blurred (sharp b (.inr mem)).symm)⟩
  · rintro ⟨min, max⟩
    exact ⟨fun a mem => .inl (min a mem), fun b mem => .inl (max b mem)⟩

/-- How an integer shape checks the range that it is declared with, its lower bound not above its
upper one. Every session that asks for the shape has a node for it, whatever else the document
declares, and so has the model of the document, if there is one. -/
theorem range_checked {document : Json} (regular : document.Regular fun _ => True) {r : Registry}
    (loaded : Registry.load document = .ok r) {id : String} {lo hi : Option WordInt}
    (declares : DeclaresRange document id lo hi) (ordered : ∀ a ∈ lo, ∀ b ∈ hi, a.val ≤ b.val) :
    (∀ ids : List String, id ∈ ids → (Compiler.session r ids).finish.ChecksRange id lo hi) ∧
      ∀ m, ofJson document = .ok m → m.ChecksRange id lo hi := by
  have isLoaded := Registry.isLoaded_of_load loaded
  obtain ⟨s, held, ranged⟩ := declares.hasRange regular loaded
  have sessions (ids : List String) (mem : id ∈ ids) :
      (Compiler.session r ids).finish.ChecksRange id lo hi := by
    obtain ⟨root, found, hnode⟩ := node_of_hasRange isLoaded held ranged ordered mem
    exact checksRange_of_node found hnode
  refine ⟨sessions, fun m compiled => ?_⟩
  -- A compiled model is the session with all declared ids, and this is one of them.
  rw [ofJson, loaded] at compiled
  rw [Compiler.eq_finish_of_ofRegistry compiled]
  exact sessions r.declaredIds (Registry.mem_declaredIds_of_get? isLoaded held)

end CompiledModel

/-! ### A bound of `2 ^ 53` -/

namespace Limit

/-- The integer `2 ^ 53`. The next one is no binary64 number. -/
def bound : WordInt := ⟨0x20000000000000, by decide⟩

/-- The integer after the bound. -/
def beyond : WordInt := ⟨0x20000000000001, by decide⟩

/-- A document with one shape, of the integers from 0 to the bound. -/
def document : Json :=
  .object [("shapes", .object [("ns#N", .object
    [("type", .string "long"), ("traits", .object [("smithy.api#range", .object
      [("min", .number (.int ⟨0, by decide⟩)), ("max", .number (.int bound))])])])])]

/-- The document declares the range. -/
theorem declares : DeclaresRange document "ns#N" (some ⟨0, by decide⟩) (some bound) :=
  .intro rfl rfl rfl (by decide) rfl (by rfl) rfl rfl

/-- No object of the document repeats a key. -/
theorem regular : document.Regular fun _ => True := by simp [document]

/-- The model of the document checks the range. -/
theorem range_kept : ∃ m, CompiledModel.ofJson document = .ok m ∧
    m.ChecksRange "ns#N" (some ⟨0, by decide⟩) (some bound) := by
  have loads : (Registry.load document).isOk = true := by decide +kernel
  have compiles : (CompiledModel.ofJson document).isOk = true := by decide +kernel
  obtain ⟨r, loaded⟩ := isOk_iff_exists.1 loads
  obtain ⟨m, compiled⟩ := isOk_iff_exists.1 compiles
  have ordered : ∀ a ∈ some (⟨0, by decide⟩ : WordInt), ∀ b ∈ some bound, a.val ≤ b.val := by
    decide
  exact ⟨m, compiled, (CompiledModel.range_checked regular loaded declares ordered).2 m compiled⟩

/-- The integer after the bound is out of the range, and nothing is found wrong with it. -/
theorem beyond_passes : DeclaresRange document "ns#N" (some ⟨0, by decide⟩) (some bound) ∧
    ∃ m root, CompiledModel.ofJson document = .ok m ∧ m.get? "ns#N" = some root ∧
      ¬ (m.violations root (.number (.int beyond)) = [] ↔
        InRange (some ⟨0, by decide⟩) (some bound) beyond) := by
  have answers : (CompiledModel.ofJson document).toOption.map (fun m =>
      (m.get? "ns#N").map fun root => (m.violations root (.number (.int beyond))).isEmpty) =
        some (some true) := by
    decide +kernel
  obtain ⟨m, compiled, answer⟩ := Option.map_eq_some_iff.1 answers
  obtain ⟨root, found, clean⟩ := Option.map_eq_some_iff.1 answer
  rw [toOption_eq_some_iff] at compiled
  refine ⟨declares, m, root, compiled, found, fun exactly => ?_⟩
  have inside := exactly.1 (List.isEmpty_iff.1 clean)
  exact absurd (inside.2 bound rfl) (by decide)

end Limit

end ShapeSchema
