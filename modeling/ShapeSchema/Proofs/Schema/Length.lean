import ShapeSchema.Proofs.JsonSchema.Reference
import ShapeSchema.Proofs.Schema.Range

/-!
# `ShapeSchema.Proofs.Schema.Length`: the length of a string or a list

A bound of a length is written as a number, read as a binary64 number, and kept as a word. Both
steps can change it. A large integer is rounded when it is read, and `2 ^ 64`, which no word holds,
is taken for a bound and kept as the largest word.

The whole path is followed here: from a document that declares the shape (`DeclaresLength`) to the
shape in its registry (`DeclaresLength.hasLength`), to which bounds are taken (`isLength_iff`) and
which words they become (`lengthConstraint_eq`), and on to the node and to the document that is
written for it (`keepsLength_of_session`).

`length_taken` puts it together. Where the bounds are binary64 numbers other than `2 ^ 64`, they are
taken exactly if they are words in order, and kept as they are written. `Limit.bounds_changed` has
bounds for which this fails.
-/

set_option autoImplicit false

namespace ShapeSchema

/-! ### Numbers as counts -/

namespace Json.Number

/-- The number is this count. -/
def Is (x : Json.Number) (n : Nat) : Prop := x.exactUnits = n * Double.one

/-- The word that is kept of a bound: its value in binary64, or the largest word if it is beyond
that. -/
def word (x : Json.Number) : UInt64 :=
  .ofNat (min (x.roundedUnits / Double.one).toNat 0xFFFFFFFFFFFFFFFF)

/-- The number is a binary64 number other than `2 ^ 64`. -/
structure Plain (x : Json.Number) : Prop where
  unrounded : x.roundedUnits = x.exactUnits
  word : ¬ x.Is 0x10000000000000000

/-- An integer is the count that it is written as. -/
theorem is_int {a : WordInt} {n : Nat} : (Json.Number.int a).Is n ↔ a.val = n := by
  have positive := Double.one_pos
  constructor
  · intro count
    exact Int.eq_of_mul_eq_mul_right (by omega : (Double.one : Int) ≠ 0) count
  · intro same
    rw [Is, exactUnits, same]

/-- A count up to `2 ^ 64` is rounded to such a count. -/
theorem exists_rounded {x : Json.Number} {n : Nat} (count : x.Is n)
    (bounded : n ≤ 0x10000000000000000) :
    ∃ k : Nat, x.roundedUnits = k * Double.one ∧ k ≤ 0x10000000000000000 := by
  cases x with
  | real x => exact ⟨n, count, bounded⟩
  | int a =>
    have positive := Double.one_pos
    have same := is_int.1 count
    obtain ⟨k, integral⟩ : Double.one ∣ Double.rounded (n * Double.one) :=
      Double.one_dvd_rounded (Nat.dvd_mul_left _ _)
    -- The limit is a power of two, so it is not rounded, and rounding keeps the order.
    have top : Double.rounded (0x10000000000000000 * Double.one) =
        0x10000000000000000 * Double.one := by
      obtain ⟨one, power⟩ := Double.exists_one_eq
      have whole : 0x10000000000000000 * 2 ^ one = 2 ^ (64 + one) := (Nat.pow_add 2 64 one).symm
      rw [power, whole, Double.rounded_two_pow]
    have mono := Double.rounded_mono (Nat.mul_le_mul_right Double.one bounded)
    refine ⟨k, ?_, ?_⟩
    · show (Double.ofInt a.val).units = _
      rw [Double.units_ofInt_word a.natAbs_le, same, if_neg (by omega), Int.natAbs_natCast,
        integral, Nat.mul_comm, Int.natCast_mul]
    · rw [integral, top, Nat.mul_comm] at mono
      exact Nat.le_of_mul_le_mul_right mono positive

/-- What is taken for a count when it is read is one as it is written. -/
theorem isCount_toDouble_iff {x : Json.Number} :
    x.toDouble.IsCount ↔ ∃ n, x.Is n ∧ n ≤ 0x10000000000000000 := by
  constructor
  · rintro ⟨k, value, bounded⟩
    cases x with
    | real x => exact ⟨k, value, bounded⟩
    | int a =>
      have word := a.property
      -- A negative integer is at most minus one, and minus one is kept.
      have notNegative : 0 ≤ a.val := by
        by_contra negative
        have mono := Double.rounded_mono
          (Nat.mul_le_mul_right Double.one (show 1 ≤ a.val.natAbs by omega))
        rw [Double.rounded_mul_one (by omega)] at mono
        have positive := Double.one_pos
        rw [Json.Number.toDouble, Double.units_ofInt_word a.natAbs_le, if_pos (by omega),
          ← Int.natCast_mul] at value
        omega
      obtain ⟨n, same⟩ := Int.eq_ofNat_of_zero_le notNegative
      exact ⟨n, is_int.2 same, by omega⟩
  · rintro ⟨n, count, bounded⟩
    exact exists_rounded count bounded

/-- The word of a count is the rounded count, if that is a word. -/
theorem word_eq {x : Json.Number} {k : Nat} (value : x.roundedUnits = k * Double.one) :
    x.word = .ofNat (min k 0xFFFFFFFFFFFFFFFF) := by
  have positive := Double.one_pos
  rw [word, value, Int.mul_ediv_cancel _ (by omega), Int.toNat_natCast]

/-- A number is one count only. -/
theorem Is.unique {x : Json.Number} {a b : Nat} (first : x.Is a) (second : x.Is b) : a = b := by
  have positive := Double.one_pos
  have same : (a : Int) = b :=
    Int.eq_of_mul_eq_mul_right (by omega : (Double.one : Int) ≠ 0) (first.symm.trans second)
  omega

/-- Integers up to `2 ^ 53` in magnitude are binary64 numbers. -/
theorem plain_int {a : WordInt} (small : a.val.natAbs ≤ 0x20000000000000) :
    (Json.Number.int a).Plain where
  unrounded := Double.units_ofInt_small a.natAbs_le small
  word := by
    intro count
    have same := is_int.1 count
    omega

/-- The word of a count below `2 ^ 64` that needs no rounding is that count. -/
theorem toNat_word {x : Json.Number} (plain : x.Plain) {n : Nat} (count : x.Is n)
    (bounded : n < 0x10000000000000000) : x.word.toNat = n := by
  rw [word_eq (plain.unrounded.trans count), UInt64.toNat_ofNat']
  omega

end Json.Number

/-! ### Bounds as they are taken -/

/-- The bounds of a length as they are to be: words, in order. -/
structure LengthSound (lo hi : Option Json.Number) : Prop where
  min : ∀ x ∈ lo, ∃ n, x.Is n ∧ n < 0x10000000000000000
  max : ∀ x ∈ hi, ∃ n, x.Is n ∧ n < 0x10000000000000000
  ordered : ∀ a ∈ lo, ∀ b ∈ hi, a.exactUnits ≤ b.exactUnits

/-- The bounds of a length that are taken: counts up to `2 ^ 64`, that one with the others, and in
order as binary64 numbers. -/
structure LengthTaken (lo hi : Option Json.Number) : Prop where
  min : ∀ x ∈ lo, ∃ n, x.Is n ∧ n ≤ 0x10000000000000000
  max : ∀ x ∈ hi, ∃ n, x.Is n ∧ n ≤ 0x10000000000000000
  ordered : ∀ a ∈ lo, ∀ b ∈ hi, a.roundedUnits ≤ b.roundedUnits

/-- These are the same for bounds that are binary64 numbers other than `2 ^ 64`. -/
theorem lengthTaken_iff_sound {lo hi : Option Json.Number}
    (plain : ∀ x, x ∈ lo ∨ x ∈ hi → x.Plain) : LengthTaken lo hi ↔ LengthSound lo hi := by
  -- A plain number is not the one that is taken by mistake, and it is not rounded.
  have side {x : Json.Number} (plain : x.Plain) :
      (∃ n, x.Is n ∧ n ≤ 0x10000000000000000) ↔ ∃ n, x.Is n ∧ n < 0x10000000000000000 := by
    constructor
    · rintro ⟨n, count, bounded⟩
      refine ⟨n, count, Nat.lt_of_le_of_ne bounded ?_⟩
      rintro rfl
      exact plain.word count
    · rintro ⟨n, count, bounded⟩
      exact ⟨n, count, Nat.le_of_lt bounded⟩
  have order {a b : Json.Number} (memA : a ∈ lo) (memB : b ∈ hi) :
      a.roundedUnits ≤ b.roundedUnits ↔ a.exactUnits ≤ b.exactUnits := by
    rw [(plain a (.inl memA)).unrounded, (plain b (.inr memB)).unrounded]
  constructor
  · rintro ⟨min, max, ordered⟩
    exact ⟨fun x mem => (side (plain x (.inl mem))).1 (min x mem),
      fun x mem => (side (plain x (.inr mem))).1 (max x mem),
      fun a memA b memB => (order memA memB).1 (ordered a memA b memB)⟩
  · rintro ⟨min, max, ordered⟩
    exact ⟨fun x mem => (side (plain x (.inl mem))).2 (min x mem),
      fun x mem => (side (plain x (.inr mem))).2 (max x mem),
      fun a memA b memB => (order memA memB).2 (ordered a memA b memB)⟩

/-- Numbers as they are read for the bounds of a length. -/
def Bounds.ofNumbers (lo hi : Option Json.Number) : Bounds :=
  ⟨lo.map Json.Number.toDouble, hi.map Json.Number.toDouble⟩

/-- The words that become of the bounds of a length. -/
def Length.ofNumbers (lo hi : Option Json.Number) : Length :=
  ⟨lo.map Json.Number.word, hi.map Json.Number.word⟩

/-- The bounds that pass as a length are those that are taken. -/
theorem isLength_iff {lo hi : Option Json.Number} :
    (Bounds.ofNumbers lo hi).IsLength ↔ LengthTaken lo hi := by
  have side (bound : Option Json.Number) : (∀ x ∈ bound.map Json.Number.toDouble, x.IsCount) ↔
      ∀ x ∈ bound, ∃ n, x.Is n ∧ n ≤ 0x10000000000000000 := by
    simp only [← Json.Number.isCount_toDouble_iff, Option.forall_mem_map]
  have order : (Bounds.ofNumbers lo hi).Ordered ↔
      ∀ a ∈ lo, ∀ b ∈ hi, a.roundedUnits ≤ b.roundedUnits := by
    simp only [Bounds.Ordered, Bounds.ofNumbers, Option.forall_mem_map]
    rfl
  constructor
  · rintro ⟨min, max, ordered⟩
    exact ⟨(side lo).1 min, (side hi).1 max, order.1 ordered⟩
  · rintro ⟨min, max, ordered⟩
    exact ⟨(side lo).2 min, (side hi).2 max, order.2 ordered⟩

/-- A bound that is taken becomes its word. -/
theorem lengthBound?_eq {shape : String} {side : BoundSide} {bound : Option Json.Number}
    {word : Option UInt64}
    (read : lengthBound? shape side (bound.map Json.Number.toDouble) = .ok word) :
    word = bound.map Json.Number.word := by
  cases bound with
  | none =>
    cases read
    rfl
  | some x =>
    obtain ⟨w, rfl, taken⟩ := lengthBound?_some_ok.1 read
    obtain ⟨k, value, -, rfl⟩ := lengthBound_ok_iff.1 taken
    rw [Option.map_some, Json.Number.word_eq value]

/-- The constraint that is made of the bounds of a length has their words. -/
theorem lengthConstraint_eq {shape : String} {traits : List Trait} {lo hi : Option Json.Number}
    (declared : Trait.length? traits = some (.ofNumbers lo hi)) {length : Length}
    (made : lengthConstraint shape traits = .ok length) : length = .ofNumbers lo hi := by
  rw [lengthConstraint, declared] at made
  obtain ⟨min, readMin, made⟩ := except_bind_ok made
  obtain ⟨max, readMax, made⟩ := except_bind_ok made
  rw [lengthBound?_eq readMin, lengthBound?_eq readMax] at made
  split at made
  · split at made
    · cases made
    · exact (Except.ok.inj made).symm
  · exact (Except.ok.inj made).symm

/-! ### From the document to the shape -/

/-- The kinds that have elements. -/
def Kind.lists : List Kind := [.list, .set]

/-- The kinds that have a text. -/
def Kind.texts : List Kind := [.string, .document]

/-- The kinds with elements are lists and sets. -/
theorem Kind.mem_lists_iff {k : Kind} : k ∈ lists ↔ k = .list ∨ k = .set := by simp [lists]

/-- The kinds with a text are strings and documents. -/
theorem Kind.mem_texts_iff {k : Kind} : k ∈ texts ↔ k = .string ∨ k = .document := by simp [texts]

/-- No kind has both. -/
theorem Kind.notMem_lists_of_mem_texts {k : Kind} (text : k ∈ texts) : k ∉ lists := by
  rcases mem_texts_iff.1 text with rfl | rfl <;> decide

/-- A document declares a list, or a string without enum trait, and its length has these bounds.
Where the trait is written under both of its names, the first one counts. -/
inductive DeclaresLength (document : Json) (id : String) (kind : Kind)
    (lo hi : Option Json.Number) : Prop where
  | intro {shapes traits : List (String × Json)} {declaration payload : Json} {tag : String}
      (declared : document.part? 1 "shapes" = some (.object shapes))
      (found : shapes.lookup id = some declaration)
      (tagged : declaration.part? 0 "type" = some (.string tag)) (named : Kind.ofTag tag = kind)
      (traited : declaration.part? 6 "traits" = some (.object traits))
      (measured : kind ∈ Kind.lists ∨ kind ∈ Kind.texts ∧ Trait.payloads "enum" traits = [])
      (bounded : (Trait.payloads "length" traits).head? = some payload)
      (min : payload.partOr 0 "min" .null = Bounds.number lo)
      (max : payload.partOr 1 "max" .null = Bounds.number hi)

namespace Trait

variable {owner : String} {raw : OrderedMap Json} {traits : List Trait}

/-- The bounds of a length are read from the first payload for it. -/
theorem length?_of_parseAll (parsed : parseAll owner raw = .ok traits) {payload : Json}
    (first : (payloads "length" raw.entries).head? = some payload) :
    ∃ b, Bounds.decoder.reading payload = some b ∧ length? traits = some b := by
  obtain ⟨t, answer, found⟩ := find?_of_parseAll parsed (by decide) first
  obtain ⟨b, reads, rfl⟩ := Option.map_eq_some_iff.1 answer
  refine ⟨b, reads, ?_⟩
  rw [length?, findSome?_of_named (n := "length") fun t => by cases t <;> rfl, found]
  rfl

/-- A map without payloads for an enum has no enum. -/
theorem enum?_of_parseAll (parsed : parseAll owner raw = .ok traits)
    (absent : payloads "enum" raw.entries = []) : enum? traits = none := by
  obtain ⟨-, rfl⟩ := parseAll_eq_ok_iff.1 parsed
  rw [enum?, findSome?_of_named (n := "enum") fun t => by cases t <;> rfl, find?_ofEntries, absent]
  rfl

end Trait

/-- A list, or a string without enum trait, with the bounds of its length. -/
structure Shape.HasLength (s : Shape) (lo hi : Option Json.Number) : Prop where
  measured : s.kind ∈ Kind.lists ∨ s.kind ∈ Kind.texts ∧ Trait.enum? s.traits = none
  length : Trait.length? s.traits = some (.ofNumbers lo hi)

/-- The registry of a document has the shapes that the document declares, with their lengths. -/
theorem DeclaresLength.hasLength {document : Json} (regular : document.Regular fun _ => True)
    {r : Registry} (loaded : Registry.load document = .ok r) {id : String} {kind : Kind}
    {lo hi : Option Json.Number} (declares : DeclaresLength document id kind lo hi) :
    ∃ s, r.get? id = some s ∧ s.kind = kind ∧ s.HasLength lo hi := by
  obtain ⟨declared, found, tagged, rfl, traited, measured, bounded, min, max⟩ := declares
  obtain ⟨s, held, kind, owner, raw, rfl, parsed⟩ :=
    Registry.traits_of_load regular declared found loaded tagged traited
  obtain ⟨b, read, length⟩ := Trait.length?_of_parseAll parsed bounded
  have whole := Trait.regular_payload regular declared found traited bounded
  refine ⟨s, held, kind, ?_, ?_⟩
  · rw [kind]
    exact measured.imp_right fun ⟨text, absent⟩ => ⟨text, Trait.enum?_of_parseAll parsed absent⟩
  · rw [length, Bounds.reading_number whole min max read, Bounds.ofNumbers]

/-! ### From the shape to the node -/

namespace Shape

variable {s : Shape} {lo hi : Option Json.Number}

/-- Whether the shape is valid depends on its bounds, and for a list on whether it has an element.
-/
theorem HasLength.valid_iff (h : s.HasLength lo hi) : s.kind.isSupported = true ∧ s.Valid ↔
    LengthTaken lo hi ∧ (s.kind ∈ Kind.lists → s.element.isSome = true) := by
  have bounds : (∀ b, Trait.length? s.traits = some b → b.IsLength) ↔ LengthTaken lo hi := by
    simp only [h.length, Option.some.injEq, forall_eq', isLength_iff]
  unfold Valid
  rcases h.measured with list | ⟨text, absent⟩
  · rcases Kind.mem_lists_iff.1 list with kind | kind <;>
      simp [kind, bounds, Kind.isSupported, Kind.lists, and_comm]
  · rcases Kind.mem_texts_iff.1 text with kind | kind <;>
      simp [kind, bounds, absent, Kind.isSupported, Kind.lists]

/-- The length of a string constraint is the length constraint. -/
theorem length_of_stringConstraint {id : String} {traits : List Trait} {c : StringConstraint}
    (made : stringConstraint id traits = .ok c) : lengthConstraint id traits = .ok c.length := by
  obtain ⟨length, measured, made⟩ := except_bind_ok made
  rw [measured]
  split at made
  · cases made
    rfl
  · split at made <;> cases made <;> rfl

/-- The node has the words of the bounds. -/
theorem HasLength.node (h : s.HasLength lo hi) {refs : List Ref} {node : Node}
    {diagnostics : List Diagnostic} (made : s.node refs = .ok (node, diagnostics)) :
    if s.kind ∈ Kind.lists then ∃ element, node = .array element (.ofNumbers lo hi)
    else ∃ pattern, node = .string pattern (.ofNumbers lo hi) none := by
  rcases h.measured with list | ⟨text, absent⟩
  · rw [if_pos list]
    unfold Shape.node at made
    cases refs with
    | nil => rcases Kind.mem_lists_iff.1 list with kind | kind <;> rw [kind] at made <;> cases made
    | cons element rest =>
      -- Lists and sets are made in the same way.
      have array : (do
          let length ← lengthConstraint s.id s.traits
          return (.array element length, [])) = Except.ok (node, diagnostics) := by
        rcases Kind.mem_lists_iff.1 list with kind | kind <;> rw [kind] at made <;> exact made
      obtain ⟨length, measured, last⟩ := except_bind_ok array
      cases last
      exact ⟨element, by rw [lengthConstraint_eq h.length measured]⟩
  · rw [if_neg (Kind.notMem_lists_of_mem_texts text)]
    rw [node_of_text (Kind.mem_texts_iff.1 text)] at made
    have image := image_of_stringNode made
    rw [absent] at image
    obtain ⟨c, constraint, rfl⟩ := image
    refine ⟨c.pattern, ?_⟩
    rw [lengthConstraint_eq h.length (length_of_stringConstraint constraint)]

end Shape

/-! ### What is written for a node -/

namespace CompiledModel

variable {m : CompiledModel}

/-- The node of a shape has these bounds of its length, and so has the document that is written for
it, under the names that the kind has for them. -/
def KeepsLength (m : CompiledModel) (ref : Ref) (kind : Kind) (length : Length) : Prop :=
  if kind ∈ Kind.lists then
    (∃ element, m.node ref = .array element length) ∧
      (m.standalone ref).field? "minItems" = length.min.map .ofWord ∧
      (m.standalone ref).field? "maxItems" = length.max.map .ofWord
  else
    (∃ pattern, m.node ref = .string pattern length none) ∧
      (m.standalone ref).field? "minLength" = length.min.map .ofWord ∧
      (m.standalone ref).field? "maxLength" = length.max.map .ofWord

/-- An optional keyword is found under its own name, if it is there. -/
theorem lookup_keyword {key name : String} (value : Option Json) :
    List.lookup key (keyword name value) = if name = key then value else none := by
  cases value with
  | none => simp [keyword]
  | some v =>
    show List.lookup key [(name, v)] = _
    rw [Entries.lookup_cons, List.lookup_nil]

/-- What is written for a node is in its document. -/
theorem field?_standalone {ref : Ref} {key : String} (other : key ≠ "$defs") :
    (m.standalone ref).field? key = List.lookup key (m.schemaFields ref) := by
  show List.lookup key (m.schemaFields ref ++ _) = _
  have free : List.lookup key (if (m.definitions ref).isEmpty then []
      else [("$defs", Json.object (m.definitions ref))]) = none := by
    split
    · rfl
    · rw [Entries.lookup_cons, if_neg (Ne.symm other), List.lookup_nil]
  rw [List.lookup_append, free, Option.or_none]

/-- What is written for an array has the bounds of its node, as counts of items. -/
theorem keepsLength_of_array {ref element : Ref} {kind : Kind} (list : kind ∈ Kind.lists)
    {length : Length} (hnode : m.node ref = .array element length) :
    m.KeepsLength ref kind length := by
  rw [KeepsLength, if_pos list]
  refine ⟨⟨element, hnode⟩, ?_, ?_⟩ <;>
    simp [field?_standalone, schemaFields, hnode, Node.schemaFields, Entries.lookup_cons,
      List.lookup_append, lookup_keyword]

/-- What is written for a string has the bounds of its node, as counts of characters. -/
theorem keepsLength_of_string {ref : Ref} {kind : Kind} (text : kind ∉ Kind.lists)
    {pattern : Option Regex} {length : Length}
    (hnode : m.node ref = .string pattern length none) : m.KeepsLength ref kind length := by
  rw [KeepsLength, if_neg text]
  refine ⟨⟨pattern, hnode⟩, ?_, ?_⟩ <;>
    simp [field?_standalone, schemaFields, hnode, Node.schemaFields, Node.leafFields,
      Entries.lookup_cons, List.lookup_append, lookup_keyword]

/-! ### Sessions -/

/-- Wherever the shape is compiled, its node has the words of the bounds. -/
theorem keepsLength_of_session {r : Registry} {id : String} {s : Shape}
    (held : r.get? id = some s) {lo hi : Option Json.Number} (bounded : s.HasLength lo hi)
    {ids : List String} {ref : Ref} (found : (Compiler.session r ids).finish.get? id = some ref) :
    (Compiler.session r ids).finish.KeepsLength ref s.kind (.ofNumbers lo hi) := by
  obtain ⟨s', held', refs, diagnostics, -, made⟩ := (Compiler.session_sound r ids).built found
  rw [(Compiler.session_registry r ids).get? held] at held'
  cases held'
  have node := bounded.node made
  split at node
  · rename_i list
    obtain ⟨element, node⟩ := node
    exact keepsLength_of_array list node
  · rename_i text
    obtain ⟨pattern, node⟩ := node
    exact keepsLength_of_string text node

end CompiledModel

/-- What it takes to compile a shape besides its bounds: a list has an element, and what else is
reached is admitted. -/
structure Registry.AdmitsRest (r : Registry) (id : String) : Prop where
  element : ∀ s, r.Resolves id s → s.kind ∈ Kind.lists → s.element.isSome = true
  others : ∀ x, r.Reaches id x → x ≠ id → r.Admits x

namespace CompiledModel

/-- Whether a shape with bounds of its length is compiled depends on the bounds and on the rest. -/
theorem compile_iff_lengthTaken {r : Registry} (loaded : r.IsLoaded) {id : String} {s : Shape}
    (held : r.get? id = some s) {lo hi : Option Json.Number} (bounded : s.HasLength lo hi)
    (ids : List String) : (∃ ref, ((Compiler.session r ids).compile id).1 = .ok ref) ↔
      LengthTaken lo hi ∧ r.AdmitsRest id := by
  have shape : r.shape? id = some s := by rw [Registry.shape?, held, Option.some_or]
  -- The id itself is admitted by its length and, for a list, its element.
  have itself : r.Admits id ↔
      LengthTaken lo hi ∧ (s.kind ∈ Kind.lists → s.element.isSome = true) := by
    rw [Registry.admits_iff loaded, ← bounded.valid_iff]
    constructor
    · rintro ⟨s', resolved, valid⟩
      rw [Registry.resolves_iff, shape] at resolved
      cases resolved
      exact valid
    · exact fun valid => ⟨s, Registry.resolves_iff.2 shape, valid⟩
  rw [Compiler.compile_ok_iff_admits loaded]
  constructor
  · intro admitted
    obtain ⟨taken, element⟩ := itself.1 (admitted id .refl)
    refine ⟨taken, ?_, fun x chain _ => admitted x chain⟩
    intro s' resolved list
    rw [Registry.resolves_iff, shape] at resolved
    cases resolved
    exact element list
  · rintro ⟨taken, rest⟩ x chain
    by_cases same : x = id
    · subst same
      exact itself.2 ⟨taken, rest.element s (Registry.resolves_iff.2 shape)⟩
    · exact rest.others x chain same

/-- A string leads to nothing, so there is no rest. -/
theorem admitsRest_of_text {r : Registry} {id : String} {s : Shape} (held : r.get? id = some s)
    (text : s.kind ∈ Kind.texts) : r.AdmitsRest id := by
  have shape : r.shape? id = some s := by rw [Registry.shape?, held, Option.some_or]
  constructor
  · intro s' resolved list
    rw [Registry.resolves_iff, shape] at resolved
    cases resolved
    exact absurd list (Kind.notMem_lists_of_mem_texts text)
  · intro x chain other
    have flat := Shape.slots_of_text (Kind.mem_texts_iff.1 text)
    exact absurd (Registry.eq_of_reaches shape flat chain) other

/-- How the bounds of a length are taken over from the document that declares them, for a list or a
string without enum trait.

In every session a call for the shape succeeds exactly if the bounds are taken, and for a list if
the rest of what it leads to can be compiled; a string leads to nothing. Where the shape is
compiled, be it in a session or in the model of the document, its node has the words of the bounds,
and so has the document that is written for the node.

Bounds that are binary64 numbers other than `2 ^ 64` are taken exactly if they are words, in order,
and then the words are the numbers that are written. -/
theorem length_taken {document : Json} (regular : document.Regular fun _ => True) {r : Registry}
    (loaded : Registry.load document = .ok r) {id : String} {kind : Kind}
    {lo hi : Option Json.Number} (declares : DeclaresLength document id kind lo hi) :
    (∀ ids, (∃ ref, ((Compiler.session r ids).compile id).1 = .ok ref) ↔
      LengthTaken lo hi ∧ r.AdmitsRest id) ∧
    (kind ∈ Kind.texts → r.AdmitsRest id) ∧
    (∀ ids ref, (Compiler.session r ids).finish.get? id = some ref →
      (Compiler.session r ids).finish.KeepsLength ref kind (.ofNumbers lo hi)) ∧
    (∀ m, ofJson document = .ok m → LengthTaken lo hi ∧
      ∃ ref, m.get? id = some ref ∧ m.KeepsLength ref kind (.ofNumbers lo hi)) ∧
    ((∀ x, x ∈ lo ∨ x ∈ hi → x.Plain) → (LengthTaken lo hi ↔ LengthSound lo hi) ∧
      ∀ x, x ∈ lo ∨ x ∈ hi → ∀ n, x.Is n → n < 0x10000000000000000 → x.word.toNat = n) := by
  have isLoaded := Registry.isLoaded_of_load loaded
  obtain ⟨s, held, rfl, bounded⟩ := declares.hasLength regular loaded
  -- Whether a call succeeds comes down to the length and to what else is reached.
  have calls := compile_iff_lengthTaken isLoaded held bounded
  refine ⟨calls, admitsRest_of_text held, fun ids ref found => ?_, fun m compiled => ?_, ?_⟩
  · exact keepsLength_of_session held bounded found
  · rw [ofJson, loaded] at compiled
    have whole := Compiler.eq_finish_of_ofRegistry compiled
    have declaredId := Registry.mem_declaredIds_of_get? isLoaded held
    obtain ⟨ref, found⟩ := exists_get?_of_mem_ids (mem_ids_of_declared compiled declaredId)
    rw [whole] at found ⊢
    refine ⟨?_, ref, found, keepsLength_of_session held bounded found⟩
    -- An indexed id can be called for once more.
    exact ((calls r.declaredIds).1 ⟨ref, congrArg Prod.fst (Compiler.compile_of_indexed found)⟩).1
  · intro plain
    exact ⟨lengthTaken_iff_sound plain,
      fun x mem n count bounded => Json.Number.toNat_word (plain x mem) count bounded⟩

end CompiledModel

/-! ### Bounds of `2 ^ 53` and `2 ^ 64` -/

namespace Measure

/-- A small integer. -/
def small (n : Fin 8) : Json.Number := .int ⟨n, by omega, by omega⟩

/-- The integer `2 ^ 53`. -/
def even : Json.Number := .int Limit.bound

/-- The integer after `2 ^ 53`, which is no binary64 number. -/
def odd : Json.Number := .int Limit.beyond

/-- The number `2 ^ 64`, which is the first that no word holds. -/
def edge : Json.Number := .real ⟨false, 0x10000000000000, 1086, by decide⟩

/-- A document with a list of one to three tags, and with strings that have the other numbers for
bounds. -/
def document : Json :=
  let length (bounds : List (String × Json.Number)) : String × Json :=
    ("traits", .object [("smithy.api#length", .object (bounds.map fun b => (b.1, .number b.2)))])
  .object [("shapes", .object
    [("ns#Tags", .object [("type", .string "list"),
        ("member", .object [("target", .string "smithy.api#String")]),
        length [("min", small 1), ("max", small 3)]]),
     ("ns#Edge", .object [("type", .string "string"), length [("max", edge)]]),
     ("ns#Odd", .object [("type", .string "string"), length [("max", odd)]]),
     ("ns#Crossed", .object [("type", .string "string"), length [("min", odd), ("max", even)]])])]

/-- No object of the document repeats a key. -/
theorem document_regular : document.Regular fun _ => True := by simp [document]

/-- The document is loaded, and its model is compiled. -/
theorem document_compiles : ∃ r m, Registry.load document = .ok r ∧
    CompiledModel.ofJson document = .ok m := by
  have loads : (Registry.load document).isOk = true := by decide +kernel
  have compiles : (CompiledModel.ofJson document).isOk = true := by decide +kernel
  obtain ⟨r, loaded⟩ := isOk_iff_exists.1 loads
  obtain ⟨m, compiled⟩ := isOk_iff_exists.1 compiles
  exact ⟨r, m, loaded, compiled⟩

/-- The bounds of the tags are small, so they are kept as they are written. -/
theorem tags_kept : ∃ m ref, CompiledModel.ofJson document = .ok m ∧
    m.get? "ns#Tags" = some ref ∧ m.KeepsLength ref .list ⟨some 1, some 3⟩ ∧
      LengthSound (some (small 1)) (some (small 3)) := by
  obtain ⟨r, m, loaded, compiled⟩ := document_compiles
  have declares : DeclaresLength document "ns#Tags" .list (some (small 1)) (some (small 3)) :=
    .intro rfl rfl rfl (by decide) rfl (.inl (by decide)) (by rfl) rfl rfl
  obtain ⟨-, -, -, models, plain⟩ := CompiledModel.length_taken document_regular loaded declares
  obtain ⟨taken, ref, found, kept⟩ := models m compiled
  have words : Length.ofNumbers (some (small 1)) (some (small 3)) = ⟨some 1, some 3⟩ := by
    decide +kernel
  rw [words] at kept
  have numbers (x : Json.Number) (mem : x ∈ some (small 1) ∨ x ∈ some (small 3)) : x.Plain := by
    rcases mem with mem | mem
    · cases Option.mem_some.1 mem
      exact Json.Number.plain_int (by decide)
    · cases Option.mem_some.1 mem
      exact Json.Number.plain_int (by decide)
  exact ⟨m, ref, compiled, found, kept, (plain numbers).1.1 taken⟩

/-- The bounds that the node of an id has for its length. -/
def lengthOf? (m : CompiledModel) (id : String) : Option Length :=
  match m.schema? id with
  | some (.string _ length _) => some length
  | some (.array _ length) => some length
  | _ => none

/-- A bound of `2 ^ 64` is none, and it is kept as the word before it. The integer after `2 ^ 53` is
kept as `2 ^ 53`, and so it is not found to be above that as the lower one of two bounds. -/
theorem bounds_changed : ∃ m, CompiledModel.ofJson document = .ok m ∧
    (DeclaresLength document "ns#Edge" .string none (some edge) ∧
      ¬ LengthSound none (some edge) ∧
        lengthOf? m "ns#Edge" = some ⟨none, some 0xFFFFFFFFFFFFFFFF⟩) ∧
    (DeclaresLength document "ns#Odd" .string none (some odd) ∧ odd.Is 0x20000000000001 ∧
      lengthOf? m "ns#Odd" = some ⟨none, some 0x20000000000000⟩) ∧
    DeclaresLength document "ns#Crossed" .string (some odd) (some even) ∧
      ¬ LengthSound (some odd) (some even) ∧ (lengthOf? m "ns#Crossed").isSome = true := by
  have answers : (CompiledModel.ofJson document).toOption.map (fun m =>
      (lengthOf? m "ns#Edge", lengthOf? m "ns#Odd", (lengthOf? m "ns#Crossed").isSome)) =
        some (some ⟨none, some 0xFFFFFFFFFFFFFFFF⟩, some ⟨none, some 0x20000000000000⟩, true) := by
    decide +kernel
  obtain ⟨m, compiled, answer⟩ := Option.map_eq_some_iff.1 answers
  rw [toOption_eq_some_iff] at compiled
  obtain ⟨edgeKept, rest⟩ := Prod.mk.inj answer
  obtain ⟨oddKept, crossedKept⟩ := Prod.mk.inj rest
  refine ⟨m, compiled, ⟨?_, ?_, edgeKept⟩, ⟨?_, rfl, oddKept⟩, ?_, ?_, crossedKept⟩
  · exact .intro rfl rfl rfl (by decide) rfl (.inr ⟨by decide, by rfl⟩) (by rfl) rfl rfl
  · -- As a count the number is `2 ^ 64` and nothing else.
    rintro ⟨-, max, -⟩
    obtain ⟨n, count, bounded⟩ := max edge rfl
    have top : edge.Is 0x10000000000000000 := by
      unfold Json.Number.Is
      decide +kernel
    have same := top.unique count
    omega
  · exact .intro rfl rfl rfl (by decide) rfl (.inr ⟨by decide, by rfl⟩) (by rfl) rfl rfl
  · exact .intro rfl rfl rfl (by decide) rfl (.inr ⟨by decide, by rfl⟩) (by rfl) rfl rfl
  · -- The two are out of order as they are written, and equal once they are rounded.
    rintro ⟨-, -, ordered⟩
    exact absurd (ordered odd rfl even rfl) (by decide +kernel)

end Measure

end ShapeSchema
