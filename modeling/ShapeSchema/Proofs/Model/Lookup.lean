import ShapeSchema.Proofs.Registry

/-!
# `ShapeSchema.Proofs.Model.Lookup`: a registry after any look-ups

Declared shapes and prelude shapes stand in one table, and only a count tells where the declared
ones end. `Registry.HasLooked` says what the table is after look-ups of any ids, hits and failures
among them: the declared shapes as they were loaded, and behind them the prelude shapes that were
asked for, each at the place of its first look-up. One look-up keeps this (`HasLooked.lookUp`), so
every sequence of them does (`hasLooked_lookUps`).

A registry that has looked things up has only grown, so what the next look-up answers does not
depend on those before it (`answer_lookUps`). `Document.Loads.after_lookUps` puts the two together
for a document.
-/

set_option autoImplicit false

namespace ShapeSchema

namespace Registry

/-! ### Look-ups -/

/-- A look-up as its caller sees it: the answer, and the registry that the next look-up is made in.
One that fails has made no other registry. -/
def lookUp (r : Registry) (id : String) : Except ModelError Shape × Registry :=
  match r.resolve id with
  | .ok (shape, grown) => (.ok shape, grown)
  | .error e => (.error e, r)

/-- The registry after look-ups of these ids, one after the other. -/
def lookUps (r : Registry) (ids : List String) : Registry :=
  ids.foldl (fun r id => (r.lookUp id).2) r

/-- The last of some look-ups is made in what the others left. -/
theorem lookUps_append (r : Registry) (ids : List String) (id : String) :
    r.lookUps (ids ++ [id]) = ((r.lookUps ids).lookUp id).2 := by
  rw [lookUps, List.foldl_append]
  rfl

/-- An id with a shape in the table is answered with that shape, and nothing is added. -/
theorem lookUp_of_held {r : Registry} {id : String} {s : Shape} (held : r.get? id = some s) :
    r.lookUp id = (.ok s, r) := by
  rw [lookUp, resolve, held]

/-- An id without one is answered from the prelude, and then the table has the shape. -/
theorem lookUp_of_builtin {r : Registry} {id : String} {kind : Kind} (absent : r.get? id = none)
    (builtin : builtinKind? id = some kind) :
    r.lookUp id = (.ok (Shape.ofPrelude id kind),
      { r with shapes := r.shapes.insert id (Shape.ofPrelude id kind) }) := by
  rw [lookUp, resolve, absent, builtin]

/-- All other look-ups fail. -/
theorem lookUp_of_missing {r : Registry} {id : String} (absent : r.get? id = none)
    (unknown : builtinKind? id = none) : r.lookUp id = (.error (.shapeNotFound id), r) := by
  rw [lookUp, resolve, absent, unknown]

/-- The answer is the shape of the id, if it has one. -/
theorem answer_lookUp (r : Registry) (id : String) :
    (r.lookUp id).1 =
      match r.shape? id with
      | some s => .ok s
      | none => .error (.shapeNotFound id) := by
  rw [shape?]
  cases held : r.get? id with
  | some s => rw [lookUp_of_held held, Option.some_or]
  | none =>
    cases builtin : builtinKind? id with
    | none => rw [lookUp_of_missing held builtin, Option.map_none, Option.or_none]
    | some kind => rw [lookUp_of_builtin held builtin, Option.map_some, Option.none_or]

/-- One look-up lets the registry grow, or leaves it as it is. -/
theorem lookUp_grows (r : Registry) (id : String) : r.Grows (r.lookUp id).2 := by
  rw [lookUp]
  split
  · rename_i resolved
    exact (resolve_ok resolved).2.2
  · exact .refl r

/-- So do any number of them. -/
theorem lookUps_grows (r : Registry) (ids : List String) : r.Grows (r.lookUps ids) := by
  induction ids using List.reverseRecOn with
  | nil => exact .refl r
  | append_singleton ids id ih =>
    rw [lookUps_append]
    exact ih.trans (lookUp_grows _ id)

/-- No answer depends on the look-ups before it. -/
theorem answer_lookUps (r : Registry) (ids : List String) (id : String) :
    ((r.lookUps ids).lookUp id).1 = (r.lookUp id).1 := by
  rw [answer_lookUp, answer_lookUp, shape?_of_grows (lookUps_grows r ids)]

/-! ### The table -/

/-- What the first look-up of an id puts behind the shapes of a document: a shape of the prelude,
unless the document declares a shape of its own under that id. -/
def added? (declared : OrderedMap Shape) (id : String) : Option (String × Shape) :=
  if id ∈ declared.keys then none
  else (builtinKind? id).map fun kind => (id, Shape.ofPrelude id kind)

/-- The registry has these declared shapes, and behind them what look-ups of these ids have added,
each at the first look-up of its id. -/
structure HasLooked (declared : OrderedMap Shape) (ids : List String) (r : Registry) : Prop where
  count : r.declared = declared.size
  entries : r.shapes.entries = declared.entries ++ ids.eraseDups.filterMap (added? declared)

section Added

variable {declared : OrderedMap Shape} {id : String}

/-- For a declared id nothing is added. -/
theorem added?_of_mem (known : id ∈ declared.keys) : added? declared id = none := by
  rw [added?, if_pos known]

/-- For any other id the shape of the prelude is added, if there is one. -/
theorem added?_of_notMem (undeclared : id ∉ declared.keys) :
    added? declared id = (builtinKind? id).map fun kind => (id, Shape.ofPrelude id kind) := by
  rw [added?, if_neg undeclared]

/-- What is added for an id stands under that id. -/
theorem fst_of_added? {e : String × Shape} (h : added? declared id = some e) : e.1 = id := by
  rw [added?] at h
  split at h
  · cases h
  · obtain ⟨kind, -, rfl⟩ := Option.map_eq_some_iff.1 h
    rfl

/-- The ids that are added are those that are looked up, not declared, and in the prelude. -/
theorem mem_keys_added_iff {ids : List String} :
    id ∈ (ids.filterMap (added? declared)).map Prod.fst ↔
      id ∈ ids ∧ id ∉ declared.keys ∧ (builtinKind? id).isSome = true := by
  rw [List.mem_map]
  constructor
  · rintro ⟨e, mem, rfl⟩
    obtain ⟨x, looked, adds⟩ := List.mem_filterMap.1 mem
    have same := fst_of_added? adds
    subst same
    have undeclared : e.1 ∉ declared.keys := fun known => by
      rw [added?_of_mem known] at adds
      cases adds
    rw [added?_of_notMem undeclared] at adds
    obtain ⟨kind, builtin, -⟩ := Option.map_eq_some_iff.1 adds
    exact ⟨looked, undeclared, by rw [builtin, Option.isSome_some]⟩
  · rintro ⟨looked, undeclared, builtin⟩
    obtain ⟨kind, builtin⟩ := Option.isSome_iff_exists.1 builtin
    refine ⟨(id, Shape.ofPrelude id kind), List.mem_filterMap.2 ⟨id, looked, ?_⟩, rfl⟩
    rw [added?_of_notMem undeclared, builtin, Option.map_some]

end Added

namespace HasLooked

variable {declared : OrderedMap Shape} {ids : List String} {r : Registry}

/-- A registry that was just loaded has looked nothing up. -/
theorem of_isLoaded (loaded : r.IsLoaded) : HasLooked r.shapes [] r where
  count := loaded
  entries := (List.append_nil _).symm

/-- The declared ids are those of the document, whatever was looked up. -/
theorem declaredIds (h : HasLooked declared ids r) : r.declaredIds = declared.keys := by
  rw [Registry.declaredIds, OrderedMap.keys, h.entries, List.map_append, h.count, OrderedMap.size,
    ← List.length_map Prod.fst]
  exact List.take_left

/-- The table lacks an id if it is not declared and no look-up of it has added a shape. -/
theorem get?_eq_none_iff (h : HasLooked declared ids r) {id : String} :
    r.get? id = none ↔ id ∉ declared.keys ∧ (id ∈ ids → builtinKind? id = none) := by
  rw [Registry.get?, OrderedMap.get?_eq_none_iff, OrderedMap.keys, h.entries, List.map_append,
    List.mem_append, mem_keys_added_iff, List.mem_eraseDups, ← OrderedMap.keys, not_or]
  refine and_congr_right fun undeclared => ?_
  rw [not_and, not_and, Bool.not_eq_true, Option.isSome_eq_false_iff, Option.isNone_iff_eq_none]
  exact imp_congr_right fun _ => ⟨fun h => h undeclared, fun h _ => h⟩

/-- A look-up that finds its shape, or fails, adds nothing. The others add the shape of their id,
which was not looked up before. -/
theorem lookUp (h : HasLooked declared ids r) (id : String) :
    HasLooked declared (ids ++ [id]) (r.lookUp id).2 := by
  -- Looking up one more id adds its shape, unless the id was looked up before.
  have more : (ids ++ [id]).eraseDups.filterMap (added? declared) =
      ids.eraseDups.filterMap (added? declared) ++
        if id ∈ ids then [] else (added? declared id).toList := by
    rw [eraseDups_concat, List.filterMap_append]
    split
    · rfl
    · cases hadded : added? declared id <;> simp [hadded]
  -- Most cases leave the registry as it is. It then has to be shown that nothing was to be added.
  have unchanged (nothing : id ∉ ids → added? declared id = none) :
      HasLooked declared (ids ++ [id]) r := by
    refine ⟨h.count, ?_⟩
    rw [more, h.entries]
    split
    · rw [List.append_nil]
    · rename_i fresh
      rw [nothing fresh, Option.toList_none, List.append_nil]
  cases held : r.get? id with
  | some s =>
    rw [lookUp_of_held held]
    refine unchanged fun fresh => added?_of_mem ?_
    -- A shape that is held without having been looked up is a declared one.
    by_contra undeclared
    have absent := h.get?_eq_none_iff.2 ⟨undeclared, fun looked => absurd looked fresh⟩
    rw [held] at absent
    cases absent
  | none =>
    obtain ⟨undeclared, unlooked⟩ := h.get?_eq_none_iff.1 held
    cases builtin : builtinKind? id with
    | none =>
      rw [lookUp_of_missing held builtin]
      refine unchanged fun _ => ?_
      rw [added?_of_notMem undeclared, builtin, Option.map_none]
    | some kind =>
      have fresh : id ∉ ids := fun looked => by
        rw [unlooked looked] at builtin
        cases builtin
      rw [lookUp_of_builtin held builtin]
      refine ⟨h.count, ?_⟩
      rw [more, if_neg fresh, added?_of_notMem undeclared, builtin, Option.map_some,
        Option.toList_some, ← List.append_assoc, ← h.entries]
      exact OrderedMap.entries_insert _ held

end HasLooked

/-- After look-ups of any ids the declared shapes stand as they were loaded, and behind them what
the look-ups have added. -/
theorem hasLooked_lookUps {r : Registry} (loaded : r.IsLoaded) (ids : List String) :
    HasLooked r.shapes ids (r.lookUps ids) := by
  induction ids using List.reverseRecOn with
  | nil => exact .of_isLoaded loaded
  | append_singleton ids id ih =>
    rw [lookUps_append]
    exact ih.lookUp id

end Registry

/-! ### Documents -/

/-- The registry was loaded with the declarations of the document, from a value in memory or from a
text. -/
inductive Document.Loads (document : Document) (r : Registry) : Prop where
  | value {value : Json} (decoded : decodeJson Document.decoder value = .ok document)
      (loaded : Registry.load value = .ok r)
  | text {text : String} (decoded : decodeText Document.decoder text = .ok document)
      (loaded : Registry.loadText text = .ok r)

namespace Document.Loads

variable {document : Document} {r : Registry}

/-- A document that loads gives the registry that `ofDocument` makes of it. -/
theorem ofDocument (h : document.Loads r) : Registry.ofDocument document = .ok r := by
  cases h with
  | value decoded loaded =>
    rw [Registry.load, decoded] at loaded
    exact loaded
  | text decoded loaded =>
    rw [Registry.loadText, decoded] at loaded
    exact loaded

open Registry in
/-- Take a document that loads, and look-ups of any ids after that.

The declared ids are those of the document, in its order, and their shapes are those that were
resolved when it was loaded. Behind them stand the ids of the prelude that were looked up and are
not declared, each once, in the order of their first look-ups, with the built-in kind and nothing
else.

The next look-up finds a declared shape, also where the prelude has one under the same id. Otherwise
it finds what the prelude has, or it fails and leaves the registry as it was. The answer is the one
that the first look-up of all would have got. -/
theorem after_lookUps (h : document.Loads r) (ids : List String) :
    ∃ declarations, document.shapes = some declarations ∧
      (r.lookUps ids).declaredIds = declarations.keys ∧
      (∃ declared, List.Forall₂ (fun e x => e.1 = x.1 ∧ Shape.resolve e.1 e.2 = .ok x.2)
          declarations.entries declared ∧
        (r.lookUps ids).shapes.entries = declared ++ ids.eraseDups.filterMap fun id =>
          if id ∈ declarations.keys then none
          else (builtinKind? id).map fun kind => (id, Shape.ofPrelude id kind)) ∧
      ∀ id,
        (∀ d, (id, d) ∈ declarations.entries → ∃ s, Shape.resolve id d = .ok s ∧
          (r.lookUps ids).lookUp id = (.ok s, r.lookUps ids)) ∧
        (id ∉ declarations.keys → ∀ kind, builtinKind? id = some kind →
          ((r.lookUps ids).lookUp id).1 = .ok (Shape.ofPrelude id kind)) ∧
        (id ∉ declarations.keys → builtinKind? id = none →
          (r.lookUps ids).lookUp id = (.error (.shapeNotFound id), r.lookUps ids)) ∧
        ((r.lookUps ids).lookUp id).1 = (r.lookUp id).1 := by
  have made := h.ofDocument
  obtain ⟨declarations, shapes⟩ := exists_of_ofDocument made
  have pairs := entries_ofDocument made shapes
  -- The registry starts out with exactly the declared ids.
  have keys : r.shapes.keys = declarations.keys :=
    (map_eq_of_forall₂ (fun _ _ same => same.1) pairs).symm
  have looked := hasLooked_lookUps (isLoaded_ofDocument made) ids
  refine ⟨declarations, shapes, keys ▸ looked.declaredIds, ⟨_, pairs, keys ▸ looked.entries⟩,
    fun id => ⟨?_, ?_, ?_, answer_lookUps r ids id⟩⟩
  · intro d declared
    obtain ⟨⟨_, s⟩, mem, rfl, resolves⟩ := exists_of_forall₂ pairs declared
    have held := (lookUps_grows r ids).get? (OrderedMap.get?_eq_some_iff.2 mem)
    exact ⟨s, resolves, lookUp_of_held held⟩
  · intro undeclared kind builtin
    have absent : r.get? id = none := OrderedMap.get?_eq_none_iff.2 (keys ▸ undeclared)
    rw [answer_lookUps, lookUp_of_builtin absent builtin]
  · intro undeclared unknown
    have absent := looked.get?_eq_none_iff.2 ⟨keys ▸ undeclared, fun _ => unknown⟩
    exact lookUp_of_missing absent unknown

/-- A document that declares an integer of its own under the id of the prelude's. -/
def shelfDocument : Json :=
  .object [("shapes", .object
    [("ns#Shelf", .object [("type", .string "string")]),
     ("smithy.api#Integer", .object [("type", .string "long")])])]

/-- Two spellings of one prelude shape are two shapes, and the declared integer is not made anew. -/
theorem shelf_after_lookUps :
    let ids := ["smithy.api#PrimitiveLong", "ns#Missing", "smithy.api#Integer", "smithy.api#Unit",
      "smithy.api#PrimitiveLong", "smithy.api#long"]
    ∃ (document : Document) (r : Registry), document.Loads r ∧
      Registry.load shelfDocument = .ok r ∧
      (r.lookUps ids).declaredIds = ["ns#Shelf", "smithy.api#Integer"] ∧
      (r.lookUps ids).shapes.keys = ["ns#Shelf", "smithy.api#Integer", "smithy.api#PrimitiveLong",
        "smithy.api#Unit", "smithy.api#long"] ∧
      ((r.lookUps ids).lookUp "smithy.api#Long").1 =
        .ok (Shape.ofPrelude "smithy.api#Long" .long) := by
  intro ids
  have loads : (Registry.load shelfDocument).isOk = true := by decide +kernel
  have names : (decodeJson Document.decoder shelfDocument).toOption.bind
      (fun d => d.shapes.map OrderedMap.keys) = some ["ns#Shelf", "smithy.api#Integer"] := by
    decide +kernel
  obtain ⟨r, loaded⟩ := isOk_iff_exists.1 loads
  obtain ⟨document, decoded, names⟩ := Option.bind_eq_some_iff.1 names
  have source : document.Loads r := .value (toOption_eq_some_iff.1 decoded) loaded
  obtain ⟨declarations, shapes, ordered, ⟨declared, pairs, entries⟩, answers⟩ :=
    source.after_lookUps ids
  rw [shapes, Option.map_some, Option.some.injEq] at names
  rw [names] at ordered entries answers
  refine ⟨document, r, source, loaded, ordered, ?_, ?_⟩
  · -- The declared ids come first, and the others in the order of the look-ups.
    have old : declared.map Prod.fst = ["ns#Shelf", "smithy.api#Integer"] :=
      names ▸ (map_eq_of_forall₂ (fun _ _ same => same.1) pairs).symm
    rw [OrderedMap.keys, entries, List.map_append, old]
    decide +kernel
  · exact (answers "smithy.api#Long").2.1 (by decide) .long (by decide +kernel)

end Document.Loads

end ShapeSchema
