import ShapeSchema.Proofs.JsonSchema.Numbers
import ShapeSchema.Proofs.Schema.Length

/-!
# `ShapeSchema.Proofs.Schema.Reload`: bounds that are taken from a schema

A schema shows the bounds of a number as JSON numbers, and a document may take them from there for
the range of a shape of its own. `bounds_kept` says that nothing is lost on this way: the shape is
compiled, to a node with the bounds that the schema was written for. The sign of a zero is all that
is not kept, because an integer has none.

The way has three parts. The bounds of a compiled node are in order, in whatever session it was
compiled (`ordered_of_node`). Every schema of the node shows them (`field?_of_shows`), each as a
number that is read as the bound (`Double.exists_writtenAs`). And a document that has these numbers
in a range gives its shape the bounds again (`DeclaresBounds.hasBounds`). For every kind of numbers
there is such a document, and it is compiled (`exists_ofJson_document`).

Numbers are followed from value to value here. Where a schema is kept as text, it is up to the
reader of the text whether a number with a fraction is found again.
-/

set_option autoImplicit false

namespace ShapeSchema

open Decoder (Reading)

/-! ### The bounds of a node -/

/-- The bounds that a range constraint has are in order. -/
theorem ordered_of_rangeConstraint {shape : String} {traits : List Trait} {range : Bounds}
    (made : rangeConstraint shape traits = .ok range) : range.Ordered := by
  have ordered := (rangeConstraint_isOk_iff shape).1 ⟨range, made⟩
  cases declared : Trait.range? traits with
  | none =>
    rw [rangeConstraint, declared] at made
    cases made
    simp [Bounds.Ordered]
  | some bounds =>
    rw [rangeConstraint_eq declared made]
    exact ordered bounds declared

namespace CompiledModel

/-- The bounds of a node are in order, in whatever session it was compiled. -/
theorem ordered_of_node {r : Registry} {ids : List String} {ref : Ref} {integer : Bool}
    {lo hi : Option Double}
    (hnode : (Compiler.session r ids).finish.node ref = .number integer lo hi) :
    Bounds.Ordered ⟨lo, hi⟩ := by
  have sound := Compiler.session_sound r ids
  have placed : (Compiler.session r ids).nodes[ref.index]? = some (.number integer lo hi) := by
    change ((Compiler.session r ids).nodes[ref.index]?).getD .empty = _ at hnode
    cases held : (Compiler.session r ids).nodes[ref.index]? with
    | none =>
      rw [held] at hnode
      cases hnode
    | some node =>
      rw [held, Option.getD_some] at hnode
      rw [hnode]
  have inside := (Array.getElem?_eq_some_iff.1 placed).1
  -- A place without id holds a plain string, so the node was made for a shape.
  rcases sound.taken ref.index inside with indexed | plain
  · obtain ⟨⟨id, _⟩, mem, rfl⟩ := List.mem_map.1 indexed
    obtain ⟨s, node, -, -, placed', refs, diagnostics, -, made⟩ :=
      sound.finished _ mem List.not_mem_nil
    cases placed.symm.trans placed'
    exact ordered_of_rangeConstraint (Shape.rangeConstraint_of_node made)
  · rw [placed] at plain
    cases plain

/-! ### The bounds in a schema -/

/-- The schemas that are written for a node: the document of the node, the definition of its shape,
and what stands where another node leads to it. -/
inductive Shows (m : CompiledModel) (ref : Ref) : Json → Prop
  | standalone : Shows m ref (m.standalone ref)
  | definition : Shows m ref (.object (m.schemaFields ref))
  | child : Shows m ref (m.childSchema ref)

/-- Every schema of a node of numbers has its bounds. -/
theorem field?_of_shows {m : CompiledModel} {ref : Ref} {integer : Bool} {lo hi : Option Double}
    (hnode : m.node ref = .number integer lo hi) {schema : Json} (shown : m.Shows ref schema) :
    schema.field? "minimum" = lo.map Double.schemaNumber ∧
      schema.field? "maximum" = hi.map Double.schemaNumber := by
  have fields : m.schemaFields ref = (Node.number integer lo hi).leafFields := by
    rw [schemaFields, hnode]
    rfl
  -- A number is written in place, wherever a node leads to it.
  have child : m.childSchema ref = .object (Node.number integer lo hi).leafFields := by
    rw [childSchema, definedShape?, hnode]
    rfl
  have found : List.lookup "minimum" (Node.number integer lo hi).leafFields =
        lo.map Double.schemaNumber ∧
      List.lookup "maximum" (Node.number integer lo hi).leafFields =
        hi.map Double.schemaNumber := by
    simp [Node.leafFields, Entries.lookup_cons, List.lookup_append, lookup_keyword]
  cases shown with
  | standalone =>
    rw [field?_standalone (by decide), field?_standalone (by decide), fields]
    exact found
  | definition =>
    rw [fields]
    exact found
  | child =>
    rw [child]
    exact found

end CompiledModel

/-- The bounds, with one zero in the place of two. -/
def Bounds.foldZero (b : Bounds) : Bounds := ⟨b.min.map Double.foldZero, b.max.map Double.foldZero⟩

/-- Bounds stay in order when the sign of a zero goes. -/
theorem Bounds.Ordered.foldZero {b : Bounds} (ordered : b.Ordered) : b.foldZero.Ordered := by
  simpa [Bounds.Ordered, Bounds.foldZero] using ordered

/-- A bound that may be absent is written, if it is there, as a number for it. -/
theorem Bounds.exists_written (bound : Option Double) :
    ∃ n : Option Json.Number, Option.Rel Double.WrittenAs bound n ∧
      bound.map Double.schemaNumber = n.map .number ∧
      n.map Json.Number.toDouble = bound.map Double.foldZero := by
  cases bound with
  | none => exact ⟨none, .none, rfl, rfl⟩
  | some x =>
    obtain ⟨n, written⟩ := x.exists_writtenAs
    exact ⟨some n, .some written, congrArg some written.written, congrArg some written.value⟩

/-! ### The bounds in a document -/

/-- A document declares a shape of numbers, and its range has these numbers for bounds. Where the
trait is written under both of its names, the first one counts. -/
inductive DeclaresBounds (document : Json) (id : String) (kind : Kind)
    (min max : Option Json.Number) : Prop where
  | intro {shapes traits : List (String × Json)} {declaration payload : Json} {tag : String}
      (declared : document.part? 1 "shapes" = some (.object shapes))
      (found : shapes.lookup id = some declaration)
      (tagged : declaration.part? 0 "type" = some (.string tag)) (named : Kind.ofTag tag = kind)
      (numeric : kind ∈ Kind.numbers)
      (traited : declaration.part? 6 "traits" = some (.object traits))
      (ranged : (Trait.payloads "range" traits).head? = some payload)
      (lower : payload.partOr 0 "min" .null = Bounds.number min)
      (upper : payload.partOr 1 "max" .null = Bounds.number max)

/-- The registry of a document has the shapes that the document declares, with their bounds. -/
theorem DeclaresBounds.hasBounds {document : Json} (regular : document.Regular fun _ => True)
    {r : Registry} (loaded : Registry.load document = .ok r) {id : String} {kind : Kind}
    {min max : Option Json.Number} (declares : DeclaresBounds document id kind min max) :
    ∃ s, r.get? id = some s ∧ s.kind = kind ∧ s.HasBounds (.ofNumbers min max) := by
  obtain ⟨declared, found, tagged, rfl, numeric, traited, ranged, lower, upper⟩ := declares
  obtain ⟨s, held, kind, owner, raw, rfl, parsed⟩ :=
    Registry.traits_of_load regular declared found loaded tagged traited
  obtain ⟨b, read, range⟩ := Trait.range?_of_parseAll parsed ranged
  have whole := Trait.regular_payload regular declared found traited ranged
  refine ⟨s, held, kind, kind ▸ numeric, ?_⟩
  rw [range, Bounds.reading_number whole lower upper read, Bounds.ofNumbers]

/-- A document with one declaration in it loads if the declaration can be read and resolved. -/
theorem Registry.exists_load {id : String} {declaration : Json}
    (regular : declaration.Regular fun _ => True) {d : Declaration}
    (reads : Declaration.decoder.reading declaration = some d) {s : Shape}
    (resolves : Shape.resolve id d = .ok s) :
    ∃ r, Registry.load (.object [("shapes", .object [(id, declaration)])]) = .ok r := by
  have whole : (Json.object [("shapes", .object [(id, declaration)])]).Regular fun _ => True := by
    simp [regular]
  have entries : [(id, declaration)].mapM Declaration.decoder.reading.entry = some [(id, d)] := by
    simp [Reading.entry, reads]
  have shapes : Reading.option (Reading.map Declaration.decoder.reading)
      (.object [(id, declaration)]) = some (some (.ofList [(id, d)])) := by
    simp only [Reading.option, Reading.map, entries, Option.map_some]
  -- A document of one shape is read field by field, and resolved as its only declaration.
  have document : Document.decoder.reading (.object [("shapes", .object [(id, declaration)])]) =
      some ⟨none, some (.ofList [(id, d)])⟩ := by
    rw [Document.reading_eq whole]
    show (Reading.option (Reading.map Declaration.decoder.reading)
      (.object [(id, declaration)])).bind (fun shapes => some (Document.mk none shapes)) = _
    rw [shapes, Option.bind_some]
  have decoded : decodeJson Document.decoder (.object [("shapes", .object [(id, declaration)])]) =
      .ok ⟨none, some (.ofList [(id, d)])⟩ := by
    rw [← toOption_eq_some_iff, ← document]
    exact toOption_mapError _ _
  have resolved : [(id, d)].mapM (fun e => do return (e.1, ← Shape.resolve e.1 e.2)) =
      .ok [(id, s)] := by
    simp [resolves]
  have made : ofDocument ⟨none, some (.ofList [(id, d)])⟩ =
      .ok ⟨.ofList [(id, s)], (OrderedMap.ofList [(id, s)]).size⟩ :=
    except_bind_eq_ok_iff.2 ⟨[(id, s)], resolved, rfl⟩
  exact ⟨_, except_bind_eq_ok_iff.2 ⟨_, mapError_eq_ok_iff.2 decoded, made⟩⟩

/-- The kind of a number is found by its tag. -/
theorem Kind.ofTag_tag {k : Kind} (numeric : k ∈ numbers) : ofTag k.tag = k := by
  rcases mem_numbers_iff.1 numeric with integer | rfl | rfl | rfl
  · rcases mem_integers_iff.1 integer with rfl | rfl | rfl | rfl | rfl <;> rfl
  all_goals rfl

namespace Bounds

/-- The payload of a range with these bounds. -/
def payload (min max : Option Json.Number) : Json :=
  .object (keyword "min" (min.map .number) ++ keyword "max" (max.map .number))

/-- The declaration of a shape of numbers with these bounds. -/
def declaration (kind : Kind) (min max : Option Json.Number) : Json :=
  .object [("type", .string kind.tag),
    ("traits", .object [("smithy.api#range", payload min max)])]

/-- A document with one shape of numbers, which has these bounds. -/
def document (id : String) (kind : Kind) (min max : Option Json.Number) : Json :=
  .object [("shapes", .object [(id, declaration kind min max)])]

variable (id : String) (kind : Kind) (min max : Option Json.Number)

/-- The qualified name denotes the trait. -/
theorem localName?_range : Trait.localName? "smithy.api#range" = some "range" := by decide +kernel

/-- No object of the payload repeats a key. -/
theorem regular_payload : (payload min max).Regular fun _ => True := by
  cases min <;> cases max <;> simp [payload, keyword]

/-- The payload is read as the bounds that it was written for. -/
theorem reading_payload : Bounds.decoder.reading (payload min max) = some (.ofNumbers min max) := by
  rw [reading_eq (regular_payload min max)]
  cases min <;> cases max <;> rfl

/-- No object of the document repeats a key. -/
theorem regular_document : (document id kind min max).Regular fun _ => True := by
  simp [document, declaration, regular_payload]

/-- The document declares a shape with these bounds. -/
theorem declares_document {kind : Kind} (numeric : kind ∈ Kind.numbers) :
    DeclaresBounds (document id kind min max) id kind min max := by
  refine .intro rfl List.lookup_cons_self rfl (Kind.ofTag_tag numeric) numeric rfl
    (by rw [Trait.payloads_cons, if_pos localName?_range]; rfl) ?_ ?_
  · cases min <;> cases max <;> rfl
  · cases min <;> cases max <;> rfl

/-- The one trait of the declaration is a range, and its bounds can be read. -/
theorem parseAll_payload (owner : String) :
    Trait.parseAll owner (.ofList [("smithy.api#range", payload min max)]) =
      .ok [.range (.ofNumbers min max)] := by
  have denoted : Trait.ofPayload? "range" (payload min max) =
      some (.range (.ofNumbers min max)) := by
    show (Bounds.decoder.reading _).map Trait.range = _
    rw [reading_payload, Option.map_some]
  rw [Trait.parseAll_eq_ok_iff]
  constructor
  · show ∀ e ∈ [("smithy.api#range", payload min max)], Trait.Readable e
    intro e mem n _ name
    cases List.mem_singleton.1 mem
    cases localName?_range.symm.trans name
    rw [denoted, Option.isSome_some]
  · show _ = [("smithy.api#range", payload min max)].filterMap Trait.ofField?
    simp [Trait.ofField?, localName?_range, denoted]

/-- The document is loaded. -/
theorem exists_load_document : ∃ r, Registry.load (document id kind min max) = .ok r := by
  have regular : (declaration kind min max).Regular fun _ => True := by
    simp [declaration, regular_payload]
  have reads : Declaration.decoder.reading (declaration kind min max) =
      some { kind := kind.tag, traits := .ofList [("smithy.api#range", payload min max)] } := by
    rw [Declaration.reading_eq regular]
    rfl
  have parsed := parseAll_payload min max id
  have resolves : ∃ s, Shape.resolve id
      { kind := kind.tag, traits := .ofList [("smithy.api#range", payload min max)] } = .ok s :=
    ⟨_, except_bind_eq_ok_iff.2 ⟨{}, rfl, except_bind_eq_ok_iff.2 ⟨_, parsed, rfl⟩⟩⟩
  exact Registry.exists_load regular reads resolves.choose_spec

end Bounds

/-! ### From a schema to a node -/

namespace CompiledModel

/-- The shape has a node of numbers with these bounds. -/
def KeepsBounds (m : CompiledModel) (id : String) (kind : Kind) (bounds : Bounds) : Prop :=
  ∃ root, m.get? id = some root ∧
    m.node root = .number (decide (kind ∈ Kind.integers)) bounds.min bounds.max

/-- The shape has the bounds wherever the document is loaded: in every session that asks for it, and
in the model of the document. -/
structure Reloads (document : Json) (id : String) (kind : Kind) (bounds : Bounds) : Prop where
  session : ∀ r, Registry.load document = .ok r → ∀ ids : List String, id ∈ ids →
    (Compiler.session r ids).finish.KeepsBounds id kind bounds
  model : ∀ m, ofJson document = .ok m → m.KeepsBounds id kind bounds

section Numbers

variable {id : String} {kind : Kind} {min max : Option Json.Number}
  (ordered : (Bounds.ofNumbers min max).Ordered)

include ordered

/-- Numbers in order are read, and the shape has them for bounds. -/
theorem reloads_of_declares {document : Json} (regular : document.Regular fun _ => True)
    (declares : DeclaresBounds document id kind min max) :
    Reloads document id kind (.ofNumbers min max) := by
  have sessions (r : Registry) (loaded : Registry.load document = .ok r) (ids : List String)
      (mem : id ∈ ids) :
      (Compiler.session r ids).finish.KeepsBounds id kind (.ofNumbers min max) := by
    obtain ⟨s, held, rfl, bounded⟩ := declares.hasBounds regular loaded
    exact node_of_hasBounds (Registry.isLoaded_of_load loaded) held bounded ordered mem
  refine ⟨sessions, fun m compiled => ?_⟩
  obtain ⟨r, loaded, model⟩ := except_bind_ok compiled
  rw [Compiler.eq_finish_of_ofRegistry model]
  -- The model is that of a session that asks for what is declared.
  obtain ⟨s, held, -⟩ := declares.hasBounds regular loaded
  exact sessions r loaded r.declaredIds
    (Registry.mem_declaredIds_of_get? (Registry.isLoaded_of_load loaded) held)

/-- The document that has nothing but the shape is compiled. -/
theorem exists_ofJson_document (id : String) (numeric : kind ∈ Kind.numbers) :
    ∃ m, ofJson (Bounds.document id kind min max) = .ok m := by
  have regular := Bounds.regular_document id kind min max
  obtain ⟨r, loaded⟩ := Bounds.exists_load_document id kind min max
  have isLoaded := Registry.isLoaded_of_load loaded
  have declares := Bounds.declares_document id min max numeric
  obtain ⟨s, held, -, bounded⟩ := declares.hasBounds regular loaded
  have admitted := Registry.admits_of_hasBounds isLoaded held bounded ordered
  have only : r.declaredIds = [id] := by
    rw [Registry.declaredIds_eq isLoaded, Registry.keys_of_load regular loaded rfl]
    rfl
  have model := Compiler.ofRegistry_cases isLoaded
  rw [ofJson, loaded]
  show ∃ m, ofRegistry r = .ok m
  cases compiled : ofRegistry r with
  | ok m => exact ⟨m, rfl⟩
  | error e =>
    -- The error would be about something that the one shape reaches.
    rw [compiled, only] at model
    obtain ⟨x, mem, blame⟩ := model
    cases List.mem_singleton.1 mem
    obtain ⟨y, chain, refused⟩ := blame.exists_not_admits
    exact absurd (admitted y chain) refused

end Numbers

/-- The bounds of a number keep their value on the way through a schema.

Every bound is written as a number that is read as the bound, the two zeros being one, and the
number is an integer exactly if the bound is one, from `-2 ^ 63` to `2 ^ 63`. What a document has in
the range of a shape of numbers is read like that, if it is in order, wherever the document loads.

So take a node of numbers in any session. Every schema of the node shows its bounds, and a shape of
numbers that has in its range what the schema shows is compiled with the bounds of the node. For
each id and each kind there is a document with such a shape that has a model. -/
theorem bounds_kept :
    (∀ x : Double, ∃ n, x.WrittenAs n) ∧
    (∀ (document : Json) (id : String) (kind : Kind) (min max : Option Json.Number),
      (document.Regular fun _ => True) → DeclaresBounds document id kind min max →
        (Bounds.ofNumbers min max).Ordered →
          Reloads document id kind (.ofNumbers min max)) ∧
    ∀ {r : Registry} {ids : List String} {ref : Ref} {integer : Bool} {lo hi : Option Double},
      (Compiler.session r ids).finish.node ref = .number integer lo hi →
      ∃ min max : Option Json.Number,
        Option.Rel Double.WrittenAs lo min ∧ Option.Rel Double.WrittenAs hi max ∧
        (∀ schema, (Compiler.session r ids).finish.Shows ref schema →
          schema.field? "minimum" = min.map .number ∧
            schema.field? "maximum" = max.map .number) ∧
        (∀ (document : Json) (id : String) (kind : Kind), (document.Regular fun _ => True) →
          DeclaresBounds document id kind min max →
            Reloads document id kind (Bounds.foldZero ⟨lo, hi⟩)) ∧
        ∀ (id : String) (kind : Kind), kind ∈ Kind.numbers →
          ∃ m, ofJson (Bounds.document id kind min max) = .ok m ∧
            m.KeepsBounds id kind (Bounds.foldZero ⟨lo, hi⟩) := by
  refine ⟨Double.exists_writtenAs, fun _ _ _ _ _ regular declares ordered =>
    reloads_of_declares ordered regular declares, fun {r ids ref integer lo hi} hnode => ?_⟩
  obtain ⟨min, written, shown, lower⟩ := Bounds.exists_written lo
  obtain ⟨max, written', shown', upper⟩ := Bounds.exists_written hi
  -- What is written for the bounds reads back as the bounds themselves.
  have read : Bounds.ofNumbers min max = Bounds.foldZero ⟨lo, hi⟩ := by
    rw [Bounds.ofNumbers, lower, upper]
    rfl
  have ordered : (Bounds.ofNumbers min max).Ordered := read ▸ (ordered_of_node hnode).foldZero
  have reloads (document : Json) (id : String) (kind : Kind)
      (regular : document.Regular fun _ => True)
      (declares : DeclaresBounds document id kind min max) :
      Reloads document id kind (Bounds.foldZero ⟨lo, hi⟩) :=
    read ▸ reloads_of_declares ordered regular declares
  refine ⟨min, max, written, written', ?_, reloads, ?_⟩
  · intro schema shows
    rw [← shown, ← shown']
    exact field?_of_shows hnode shows
  · intro id kind numeric
    -- The smallest document with these bounds is one that declares them.
    obtain ⟨m, compiled⟩ := exists_ofJson_document ordered id numeric
    have kept := reloads _ id kind (Bounds.regular_document id kind min max)
      (Bounds.declares_document id min max numeric)
    exact ⟨m, compiled, kept.model m compiled⟩

end CompiledModel

/-! ### A negative zero and `2 ^ 63` -/

namespace Depth

/-- The zero that an integer cannot be. -/
def surface : Double := Double.zero.neg

/-- The number `2 ^ 63`, which is the first that no signed word holds. -/
def bottom : Double := ⟨false, 0x10000000000000, 1085, by decide⟩

/-- The number as it is written. -/
def word : Json.Number := .int ⟨0x7FFFFFFFFFFFFFFF, by decide⟩

/-- A document with a shape of the numbers between the two. -/
def document : Json :=
  Bounds.document "ns#Depth" .double (some (.real surface)) (some (.real bottom))

/-- A negative zero is written as the integer zero. -/
theorem schemaNumber_surface : surface.schemaNumber = .number (Measure.small 0) := by
  rfl

/-- The number `2 ^ 63` is written as the word before it. -/
theorem schemaNumber_bottom : bottom.schemaNumber = .number word := by rfl

/-- A session that asks for the shape has a node with the two bounds. -/
theorem exists_node : ∃ r root, Registry.load document = .ok r ∧
    (Compiler.session r ["ns#Depth"]).finish.node root =
      .number false (some surface) (some bottom) := by
  obtain ⟨r, loaded⟩ :=
    Bounds.exists_load_document "ns#Depth" .double (some (.real surface)) (some (.real bottom))
  have declares := Bounds.declares_document "ns#Depth" (some (.real surface)) (some (.real bottom))
    (by decide : Kind.double ∈ Kind.numbers)
  obtain ⟨s, held, kind, bounded⟩ := declares.hasBounds (Bounds.regular_document _ _ _ _) loaded
  have ordered : (Bounds.ofNumbers (some (.real surface)) (some (.real bottom))).Ordered := by
    rintro _ ⟨⟩ _ ⟨⟩
    decide +kernel
  obtain ⟨root, -, hnode⟩ := node_of_hasBounds (Registry.isLoaded_of_load loaded) held bounded
    ordered (List.mem_singleton_self "ns#Depth")
  rw [kind] at hnode
  exact ⟨r, root, loaded, hnode⟩

/-- Both bounds are written as integers, and compiled again to what they were, but for the sign of
the zero. -/
theorem bounds_found : ∃ r root, Registry.load document = .ok r ∧
    let m := (Compiler.session r ["ns#Depth"]).finish
    m.node root = .number false (some surface) (some bottom) ∧
    (m.standalone root).field? "minimum" = some (.number (Measure.small 0)) ∧
    (m.standalone root).field? "maximum" = some (.number word) ∧
    ∃ m', CompiledModel.ofJson
          (Bounds.document "ns#Depth" .double (some (Measure.small 0)) (some word)) = .ok m' ∧
      m'.KeepsBounds "ns#Depth" .double ⟨some .zero, some bottom⟩ := by
  obtain ⟨r, root, loaded, hnode⟩ := exists_node
  obtain ⟨min, max, lower, upper, shown, -, kept⟩ := CompiledModel.bounds_kept.2.2 hnode
  -- What is written for the two is known, so the numbers are.
  cases lower with
  | some lower =>
    cases upper with
    | some upper =>
      obtain rfl := Json.number.inj (lower.written.symm.trans schemaNumber_surface)
      obtain rfl := Json.number.inj (upper.written.symm.trans schemaNumber_bottom)
      obtain ⟨least, greatest⟩ := shown _ .standalone
      have folded : Bounds.foldZero ⟨some surface, some bottom⟩ = ⟨some .zero, some bottom⟩ := by
        decide +kernel
      have again := kept "ns#Depth" .double (by decide)
      rw [folded] at again
      exact ⟨r, root, loaded, hnode, least, greatest, again⟩

end Depth

end ShapeSchema
