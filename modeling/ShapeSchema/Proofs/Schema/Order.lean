import ShapeSchema.Proofs.Compiler.Route
import ShapeSchema.Proofs.Schema.Operation

/-!
# `ShapeSchema.Proofs.Schema.Order`: the order of a compiled model

The shapes of a model are listed in the order in which their places were taken, and everything that
goes through them meets them in that order: the definitions of the whole schema, and the look-up of
a request by convention.

That order knows nothing of which shapes are declared. It is the order of the routes that lead to
them from the declarations of the document (`Registry.Precedes`), and a shape of the prelude stands
where the first route comes to it. So all declared shapes stand before those of the prelude only if
every one of them has a sooner route (`CompiledModel.ids_by_routes`); a declared shape that the ones
before it do not lead to is enough to break this (`CompiledModel.plot_interleaved`).

The request of an operation does not suffer from it. No shape of the prelude is a request by
convention (`isRequestOf_of_builtin`), so the one that is found is the declared one with the soonest
route.
-/

set_option autoImplicit false

namespace ShapeSchema

/-! ### Requests and the prelude -/

/-- A text that starts in a given way is the start and what comes after it. -/
theorem Text.toList_of_after? {start s rest : String} (after : Text.after? start s = some rest) :
    s.toList = start.toList ++ rest.toList := by
  unfold Text.after? at after
  split at after
  · rename_i starts
    obtain ⟨tail, whole⟩ := List.isPrefixOf_iff_prefix.1 starts
    cases after
    rw [String.toList_ofList, ← whole, ← String.length_toList, List.drop_left]
  · cases after

/-- The local names of the prelude in lower case, bare and with the alias in front. -/
def preludeNames : List String :=
  preludeKinds.map Prod.fst ++ preludeKinds.map fun e => "primitive" ++ e.1

/-- Up to ASCII case, an id of the prelude is one of a few. -/
theorem exists_preludeName {id : String} {kind : Kind} (builtin : builtinKind? id = some kind) :
    ∃ name ∈ preludeNames, id.map Char.toLower = (preludeNamespace ++ name).map Char.toLower := by
  obtain ⟨rest, after, known⟩ := Option.bind_eq_some_iff.1 builtin
  refine ⟨rest.map Char.toLower, List.mem_append.2 ?_, String.toList_inj.1 ?_⟩
  · -- The table has the name as it is or behind the word that is cut off.
    have listed := List.mem_map_of_mem (f := Prod.fst) (Entries.mem_of_lookup known)
    cases bared : Text.after? "primitive" (rest.map Char.toLower) with
    | none =>
      rw [bared] at listed
      exact .inl listed
    | some bare =>
      rw [bared] at listed
      obtain ⟨e, mem, name⟩ := List.mem_map.1 listed
      refine .inr (List.mem_map.2 ⟨e, mem, ?_⟩)
      rw [name, Option.getD_some, ← String.toList_inj, Text.toList_of_after? bared,
        String.toList_append]
  · have lower : (rest.toList.map Char.toLower).map Char.toLower =
        rest.toList.map Char.toLower := by
      rw [List.map_map]
      exact List.map_congr_left fun c _ => Unicode.toLower_toLower c
    rw [String.toList_map, String.toList_map, String.toList_append, String.toList_map,
      Text.toList_of_after? after, List.map_append, List.map_append, lower]

namespace CompiledModel

/-- No shape of the prelude is a request by convention. -/
theorem isRequestOf_of_builtin {id : String} {kind : Kind} (builtin : builtinKind? id = some kind)
    (operation : String) : isRequestOf operation id = false := by
  obtain ⟨name, mem, same⟩ := exists_preludeName builtin
  -- The names are ASCII, and none of them ends like a request.
  have others : (preludeNames.all fun name =>
      let cs := (preludeNamespace ++ name).toList
      cs.all (fun c => c.toNat < 0x80) &&
        !"request".toList.reverse.isPrefixOf (cs.map Char.toLower).reverse) = true := by
    decide +kernel
  have fits := List.all_eq_true.1 others name mem
  simp only [Bool.and_eq_true, List.all_eq_true, decide_eq_true_eq, Bool.not_eq_true'] at fits
  obtain ⟨ascii, other⟩ := fits
  rw [isRequestOf, Unicode.lowercase_eq_of_map_toLower same,
    Unicode.toList_lowercase_of_ascii ascii, other, Bool.and_false]

end CompiledModel

/-! ### The order of the routes -/

namespace Registry

/-- What a registry declares stays the same when it grows. -/
theorem Grows.declaredIds {r r' : Registry} (grown : r.Grows r') (loaded : r.IsLoaded) :
    r'.declaredIds = r.declaredIds := by
  obtain ⟨added, entries, -⟩ := grown.shapes
  have keys : r'.shapes.keys = r.shapes.keys ++ added.map Prod.fst := by
    rw [OrderedMap.keys, entries, List.map_append]
    rfl
  have count : r.declared = r.shapes.keys.length := by
    rw [loaded, OrderedMap.size, OrderedMap.keys, List.length_map]
  rw [Registry.declaredIds, Registry.declaredIds, grown.declared, keys, count, List.take_left,
    List.take_length]

/-- The declarations of the document, as slots from which routes start. -/
def roots (r : Registry) : List Slot := r.declaredIds.map .shape

/-- Some route from a declaration to the one shape comes before all such routes to the other. -/
def Precedes (r : Registry) (x y : String) : Prop := r.Sooner [] r.roots x y

end Registry

namespace CompiledModel

variable {r : Registry} {m : CompiledModel}

/-- The ids of a model are those that routes from the declarations lead to, in the order of the
routes. -/
theorem ordered_ids (compiled : ofRegistry r = .ok m) : r.Ordered [] r.roots m.ids := by
  obtain ⟨c, all, last⟩ := except_bind_ok compiled
  cases last
  have traversed := (Compiler.compileAll_follows r.declaredIds (.start r) all).2
  obtain ⟨added, ids, ordered⟩ := r.traverse_ordered {} r.roots
  have same : c.finish.ids = added := by
    calc c.finish.ids = c.traversal.ids := rfl
      _ = added := by rw [traversed]; exact ids
  rwa [same]

/-- No shape of the prelude that was made on the way stands before a declared one. -/
def DeclaredFirst (m : CompiledModel) : Prop :=
  m.ids.Pairwise fun x y => y ∈ m.registry.declaredIds → x ∈ m.registry.declaredIds

/-- The declared shapes stand first exactly if each of them is sooner than every other shape. -/
theorem declaredFirst_iff (ordered : r.Ordered [] r.roots m.ids)
    (declared : m.registry.declaredIds = r.declaredIds)
    (indexed : ∀ id ∈ r.declaredIds, id ∈ m.ids) :
    m.DeclaredFirst ↔ ∀ x ∈ r.declaredIds, ∀ y ∈ m.ids, y ∉ r.declaredIds → r.Precedes x y := by
  rw [DeclaredFirst, declared]
  constructor
  · intro first x mem y mem' undeclared
    -- One of the two comes first, and a declared id is not behind another one.
    have other : x ≠ y := by
      rintro rfl
      exact undeclared mem
    rcases or_of_pairwise (ordered.sooner.and first) (indexed x mem) mem' other with before | after
    · exact before.1
    · exact absurd (after.2 mem) undeclared
  · intro sooner
    refine ordered.sooner.imp_of_mem fun {x y} mem _ before declaredY => ?_
    by_contra undeclared
    exact before.asymm (sooner y declaredY x mem undeclared)

/-- How a model lists its shapes, given the registry that it was made of.

- `declared`, `others`: it has all declared ids, and what else it has are ids of the prelude;
- `reached`, `sooner`: they are the ids that routes lead to, in the order of the routes;
- `declaredFirst`: the declared ones stand first only if they are sooner than all others;
- `definitions`: the definitions of the whole schema stand in the same order;
- `request`: an operation without a compiled input has the declared request by convention with the
  soonest route. -/
structure ListsByRoutes (m : CompiledModel) (r : Registry) : Prop where
  declared : m.registry.declaredIds = r.declaredIds ∧ ∀ id ∈ r.declaredIds, id ∈ m.ids
  others : ∀ id ∈ m.ids, id ∉ r.declaredIds → (builtinKind? id).isSome = true
  reached : ∀ id, id ∈ m.ids ↔ ∃ turns, r.Route [] r.roots turns id
  sooner : m.ids.Pairwise r.Precedes
  declaredFirst : m.DeclaredFirst ↔
    ∀ x ∈ r.declaredIds, ∀ y ∈ m.ids, y ∉ r.declaredIds → r.Precedes x y
  definitions : ∃ fields, m.wholeSchema = .object [("$defs", .object fields)] ∧
    fields.map Prod.fst = m.ids
  request : ∀ name, (∀ op ∈ m.operation? name, ∀ input ∈ op.input, input ∉ m.ids) → ∀ x,
    m.requestShape? name = some x ↔ x ∈ r.declaredIds ∧ isRequestOf name x = true ∧
      ∀ y ∈ r.declaredIds, isRequestOf name y = true → y ≠ x → r.Precedes x y

/-- Where no input is compiled, the first id of the model that is a request by convention is taken.
-/
theorem requestShape?_of_uncompiled {name : String}
    (uncompiled : ∀ op ∈ m.operation? name, ∀ input ∈ op.input, input ∉ m.ids) :
    m.requestShape? name = m.ids.find? (isRequestOf name) := by
  have none : ((m.operation? name).bind (·.input)).filter (fun id => (m.get? id).isSome) =
      none := by
    rw [Option.filter_eq_none_iff]
    intro input declared compiled
    obtain ⟨op, found, given⟩ := Option.bind_eq_some_iff.1 declared
    exact uncompiled op found input given (isSome_get?_iff.1 compiled)
  rw [requestShape?, none]

/-- A model lists its shapes in the order of the routes that lead to them from the declarations of
the document. -/
theorem ids_by_routes {document : Json} {m : CompiledModel} (compiled : ofJson document = .ok m) :
    ∃ r, Registry.load document = .ok r ∧
      (∀ shapes, document.Regular (fun _ => True) →
        document.part? 1 "shapes" = some (.object shapes) →
          r.declaredIds = shapes.map Prod.fst) ∧
      m.ListsByRoutes r := by
  obtain ⟨r, load, model⟩ := except_bind_ok compiled
  have isLoaded := Registry.isLoaded_of_load load
  have held := Registry.declaredIds_eq isLoaded
  have grown := registry_grows model
  have ordered := ordered_ids model
  have indexed (id : String) (mem : id ∈ r.declaredIds) : id ∈ m.ids :=
    mem_ids_of_declared model mem
  -- The index lists what is reached from the declared ids, and only the prelude adds to these.
  have same := grown.declaredIds isLoaded
  have prelude (id : String) (mem : id ∈ m.ids) (undeclared : id ∉ r.declaredIds) :
      (builtinKind? id).isSome = true := by
    refine grown.isSome_builtinKind? ?_ (held ▸ undeclared)
    by_contra unregistered
    have missing := get?_eq_none_of_unregistered model (Entries.lookup_eq_none_iff.2 unregistered)
    rw [← isSome_get?_iff, missing] at mem
    cases mem
  refine ⟨r, load, fun shapes regular written => ?_, ⟨same, indexed⟩, prelude, ordered.mem_iff,
    ordered.sooner, declaredFirst_iff ordered same indexed, ⟨_, rfl, ?_⟩, fun name none x => ?_⟩
  · rw [held, Registry.keys_of_load regular load written]
  · rw [List.map_map]
    rfl
  · rw [requestShape?_of_uncompiled none,
      find?_eq_some_iff_of_pairwise ordered.sooner fun sooner => sooner.asymm]
    -- A request is declared, since no shape of the prelude is one.
    have declared {id : String} (mem : id ∈ m.ids) (request : isRequestOf name id = true) :
        id ∈ r.declaredIds := by
      by_contra undeclared
      obtain ⟨kind, builtin⟩ := Option.isSome_iff_exists.1 (prelude id mem undeclared)
      rw [isRequestOf_of_builtin builtin] at request
      cases request
    constructor
    · rintro ⟨mem, request, first⟩
      exact ⟨declared mem request, request, fun y mem => first y (indexed y mem)⟩
    · rintro ⟨mem, request, first⟩
      exact ⟨indexed x mem, request, fun y mem request => first y (declared mem request) request⟩

/-! ### A plot -/

/-- A document with a plot, whose first member is a string of the prelude, and two shapes that are
declared behind it. -/
def plotDocument : Json :=
  let target (id : String) : Json := .object [("target", .string id)]
  .object [("shapes", .object
    [("ns#Plot", .object [("type", .string "structure"), ("members", .object
        [("soil", target "smithy.api#String"), ("beds", target "ns#Beds")])]),
     ("ns#Fenced", .object [("type", .string "boolean")]),
     ("ns#Beds", .object [("type", .string "list"), ("member", target "ns#Plot")])])]

/-- In the plot the prelude's string comes second, before two ids that are declared. -/
theorem plotDocument_ids : ∃ m, ofJson plotDocument = .ok m ∧
    m.registry.declaredIds = ["ns#Plot", "ns#Fenced", "ns#Beds"] ∧
    m.ids = ["ns#Plot", "smithy.api#String", "ns#Beds", "ns#Fenced"] := by
  have answers : (ofJson plotDocument).toOption.map (fun m => (m.registry.declaredIds, m.ids)) =
      some (["ns#Plot", "ns#Fenced", "ns#Beds"],
        ["ns#Plot", "smithy.api#String", "ns#Beds", "ns#Fenced"]) := by
    decide +kernel
  obtain ⟨m, compiled, lists⟩ := Option.map_eq_some_iff.1 answers
  exact ⟨m, toOption_eq_some_iff.1 compiled, Prod.mk.inj lists⟩

/-- The string is sooner than the two declared shapes behind the plot. -/
theorem plot_listed : ∃ m r, ofJson plotDocument = .ok m ∧ Registry.load plotDocument = .ok r ∧
    m.ListsByRoutes r ∧ r.Precedes "smithy.api#String" "ns#Fenced" ∧
      r.Precedes "smithy.api#String" "ns#Beds" := by
  obtain ⟨m, compiled, -, ids⟩ := plotDocument_ids
  obtain ⟨r, load, -, lists⟩ := ids_by_routes compiled
  have sooner := lists.sooner
  rw [ids] at sooner
  simp only [List.pairwise_cons, List.forall_mem_cons] at sooner
  exact ⟨m, r, compiled, load, lists, sooner.2.1.2.1, sooner.2.1.1⟩

/-- So the declared shapes do not stand first. -/
theorem plot_interleaved : ∃ m, ofJson plotDocument = .ok m ∧ ¬ m.DeclaredFirst := by
  obtain ⟨m, compiled, declared, ids⟩ := plotDocument_ids
  refine ⟨m, compiled, fun first => ?_⟩
  rw [DeclaredFirst, declared, ids] at first
  exact absurd first (by decide)

end CompiledModel

end ShapeSchema
