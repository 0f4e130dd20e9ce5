import ShapeSchema.Proofs.Json.Pointer
import ShapeSchema.Proofs.JsonSchema.Semantics
import ShapeSchema.Proofs.Schema.Definitions

/-!
# `ShapeSchema.Proofs.JsonSchema.Reference`: emitted references lead to their definitions

The id of a shape is escaped twice on its way into a reference, for the pointer and for the
fragment. Reading takes the escapes out in the other order, so the reference is read as the pointer
to the definition, whatever the id (`pointer?_definitionReference`). The document has the definition
of every shape that the walk has met, and a reference to such a shape resolves to its schema
(`resolve?_standalone`).
-/

set_option autoImplicit false

namespace ShapeSchema

open JsonSchema

namespace JsonSchema

/-- Reading an escaped fragment gives the fragment back. -/
theorem decodeFragment_escape (cs : List Char) :
    decodeFragment (cs.flatMap fragmentChar) = some cs := by
  induction cs with
  | nil => rfl
  | cons c cs ih =>
    rw [List.flatMap_cons]
    -- Two characters are escaped, and an escape is decoded in one step.
    by_cases percent : c = '%'
    · subst percent
      show decodeFragment ('%' :: '2' :: '5' :: cs.flatMap fragmentChar) = _
      rw [decodeFragment, ih]
      rfl
    · by_cases hash : c = '#'
      · subst hash
        show decodeFragment ('%' :: '2' :: '3' :: cs.flatMap fragmentChar) = _
        rw [decodeFragment, ih]
        rfl
      · rw [fragmentChar, if_neg percent, if_neg hash, List.singleton_append, decodeFragment,
          if_neg percent, ih]
        · rfl
        · intro _ _ _ same
          exact absurd same percent

/-- The reference to a definition is a fragment with the pointer to that definition. -/
theorem toList_definitionReference (id : String) :
    (definitionReference id).toList =
      '#' :: (Json.Pointer.render ["$defs", id]).toList.flatMap fragmentChar := by
  have escaped : (Json.Pointer.escape id).toList = id.toList.flatMap Json.Pointer.escapeChar :=
    String.toList_ofList
  have keyword : ("$defs".toList).flatMap Json.Pointer.escapeChar = "$defs".toList := by decide
  have pointer : (Json.Pointer.render ["$defs", id]).toList =
      '/' :: "$defs".toList ++ '/' :: (Json.Pointer.escape id).toList := by
    rw [Json.Pointer.toList_render_cons, Json.Pointer.toList_render_cons, keyword, ← escaped,
      show (Json.Pointer.render []).toList = [] from rfl, List.append_nil]
    rfl
  -- The keyword and the slashes have nothing to escape, so they come out as they went in.
  have plain : ('/' :: "$defs".toList).flatMap fragmentChar = '/' :: "$defs".toList := by decide
  have start : "#/$defs/".toList = '#' :: '/' :: "$defs".toList ++ ['/'] := by decide
  have rest : (String.ofList ((Json.Pointer.escape id).toList.flatMap fragmentChar)).toList =
      (Json.Pointer.escape id).toList.flatMap fragmentChar := String.toList_ofList
  rw [pointer, List.flatMap_append, plain, definitionReference, String.toList_append, start, rest,
    List.flatMap_cons, show fragmentChar '/' = ['/'] from rfl, List.append_assoc]
  rfl

/-- The pointer that a reference into its own document is read as. -/
def pointer? (reference : String) : Option Json.Pointer :=
  match reference.toList with
  | '#' :: fragment => do Json.Pointer.parse? (String.ofList (← decodeFragment fragment))
  | _ => none

/-- To resolve a reference is to follow its pointer. -/
theorem resolve?_eq (document : Json) (reference : String) :
    resolve? document reference = (pointer? reference).bind fun p => p.resolve? document := by
  unfold resolve? pointer?
  cases reference.toList with
  | nil => rfl
  | cons c fragment =>
    by_cases hash : c = '#'
    · subst hash
      exact (Option.bind_assoc _ _ _).symm
    · simp [hash]

/-- The reference to a definition is read as the pointer to the definition, whatever the id. -/
theorem pointer?_definitionReference (id : String) :
    pointer? (definitionReference id) = some ["$defs", id] := by
  have fragment : decodeFragment ((Json.Pointer.render ["$defs", id]).toList.flatMap fragmentChar) =
      some (Json.Pointer.render ["$defs", id]).toList := decodeFragment_escape _
  have pointer : Json.Pointer.parse? (String.ofList (Json.Pointer.render ["$defs", id]).toList) =
      some ["$defs", id] := by
    rw [String.ofList_toList, Json.Pointer.parse?_render]
  simp only [pointer?, toList_definitionReference, fragment, Option.bind_eq_bind,
    Option.bind_some, pointer]

end JsonSchema

namespace CompiledModel

variable {m : CompiledModel}

/-- An optional keyword has no other name than its own. -/
theorem eq_of_mem_keyword {name key : String} {value : Option Json}
    (h : key ∈ (keyword name value).map Prod.fst) : key = name := by
  cases value with
  | none => cases h
  | some v => exact List.mem_singleton.1 h

/-- The keywords of a node leave the name of the definitions free. -/
theorem lookup_defs_schemaFields (ref : Ref) : List.lookup "$defs" (m.schemaFields ref) = none := by
  have optional {name : String} (value : Option Json) (other : "$defs" ≠ name) :
      "$defs" ∉ (keyword name value).map Prod.fst := fun h => other (eq_of_mem_keyword h)
  -- No keyword of any node has that name, whichever of the optional ones are there.
  rw [Entries.lookup_eq_none_iff, schemaFields]
  cases m.node ref with
  | string pattern length format =>
    simp only [Node.schemaFields, Node.leafFields, List.cons_append, List.map_cons, List.map_append,
      List.mem_cons, List.mem_append, not_or]
    refine ⟨by decide,
      ⟨⟨optional _ (by decide), optional _ (by decide)⟩, optional _ (by decide)⟩, ?_⟩
    cases format with
    | none => exact List.not_mem_nil
    | some format => cases format <;> decide
  | number integer min max =>
    simp only [Node.schemaFields, Node.leafFields, List.cons_append, List.map_cons, List.map_append,
      List.mem_cons, List.mem_append, not_or]
    exact ⟨by decide, optional _ (by decide), optional _ (by decide)⟩
  | array element length =>
    simp only [Node.schemaFields, List.cons_append, List.map_cons, List.map_append, List.mem_cons,
      List.mem_append, not_or]
    exact ⟨by decide, by decide, optional _ (by decide), optional _ (by decide)⟩
  | object members =>
    dsimp only [Node.schemaFields]
    split <;> simp
  | dictionary | union | enumeration | boolean | empty | forward =>
    simp [Node.schemaFields, Node.leafFields]

/-- A document has its definitions, and no keyword for them where there are none. -/
theorem resolve?_defs_standalone (root : Ref) :
    Json.Pointer.resolve? ["$defs"] (m.standalone root) =
      if (m.definitions root).isEmpty then none else some (.object (m.definitions root)) := by
  have free := lookup_defs_schemaFields (m := m) root
  rw [standalone]
  show (List.lookup "$defs" (m.schemaFields root ++ _)).bind some = _
  rw [List.lookup_append, free, Option.none_or]
  split <;> rfl

/-- Each definition stands under its id. -/
theorem resolve?_definition {root : Ref} {id : String} {schema : Json}
    (mem : (id, schema) ∈ m.definitions root) :
    Json.Pointer.resolve? ["$defs", id] (m.standalone root) = some schema := by
  have nonempty : (m.definitions root).isEmpty = false := by
    rw [List.isEmpty_eq_false_iff]
    exact List.ne_nil_of_mem mem
  rw [show ["$defs", id] = ["$defs"] ++ [id] from rfl, Json.Pointer.resolve?_append,
    resolve?_defs_standalone, nonempty, if_neg Bool.false_ne_true, Option.bind_some]
  show (List.lookup id (m.definitions root)).bind some = _
  rw [Entries.lookup_of_mem (nodup_definitions root) mem, Option.bind_some]

/-- In the schema of a node, a reference to a shape that the node leads to resolves to the schema
of that shape. -/
theorem resolve?_standalone {root ref : Ref} {id : String}
    (chain : Relation.TransGen m.Leads root ref) (named : m.shapeId? ref = some id) :
    resolve? (m.standalone root) (definitionReference id) =
      some (.object (m.schemaFields ref)) := by
  have definition : m.definition? ref = some (id, .object (m.schemaFields ref)) := by
    rw [definition?, named]
    rfl
  rw [resolve?_eq, pointer?_definitionReference, Option.bind_some]
  exact resolve?_definition (mem_definitions_iff.2 ⟨ref, chain, definition⟩)

end CompiledModel

end ShapeSchema
