import ShapeSchema.Model.Registry
import ShapeSchema.Proofs.Model.Declaration

/-!
# `ShapeSchema.Proofs.Model.Text`: a model in a text and in memory

A model is loaded from a text or from a value. The decoders of a model are faithful, so both ways
give the same registry where the text is one value in which no object repeats a key
(`Registry.loadText_eq_ok_iff`). Where a key is repeated they part: the value keeps the last entry,
and the decoder of a text meets both.
-/

set_option autoImplicit false

namespace ShapeSchema

open Decoder (Faithful Reads reads_string reads_json)
open Json (Tree)

/-- The tree of a text that is one value holds that value. -/
theorem Json.Tree.holds_ofText {text : String} {value : Json} (whole : Json.ofText text = .ok value)
    (distinct : (Tree.ofText text).Regular) :
    Tree.Holds Tree.Depth.ofText (Tree.ofText text) value := by
  refine ⟨distinct, ?_⟩
  rw [Json.ofText] at whole
  rw [Tree.ofText]
  cases scanned : Tree.scan text with
  | mk tree after =>
    rw [scanned] at whole
    obtain ⟨first, read, whole⟩ := except_bind_ok whole
    -- What follows the value decides whether it is given back, not which value it is.
    have same : first = value := by
      cases after with
      | none => exact Except.ok.inj whole
      | some c =>
        dsimp only at whole
        split at whole
        · exact Except.ok.inj whole
        · cases whole
    exact same ▸ mapError_eq_ok_iff.1 read

/-- What a text is decoded to does not depend on its being a text. -/
theorem toOption_decodeText {α : Type} {read : Decoder α} (faithful : Faithful read) {text : String}
    {value : Json} (held : Tree.Holds Tree.Depth.ofText (Tree.ofText text) value) :
    (decodeText read text).toOption = (decodeJson read value).toOption := by
  have inText := @faithful ⟨.text, Tree.Depth.ofText⟩ _ _ held
  rw [decodeText, decodeJson, toOption_mapError, toOption_mapError, inText]
  rfl

/-- Loading a model from a text that is one value, with no key repeated in any object, and loading
it from that value succeed together and give the same registry. -/
theorem Registry.loadText_eq_ok_iff {text : String} {value : Json}
    (whole : Json.ofText text = .ok value) (distinct : (Tree.ofText text).Regular) (r : Registry) :
    Registry.loadText text = .ok r ↔ Registry.load value = .ok r := by
  have held := Json.Tree.holds_ofText whole distinct
  have decoded := toOption_decodeText Document.faithful_decoder held
  have loaded : (Registry.loadText text).toOption = (Registry.load value).toOption := by
    simp only [Registry.loadText, Registry.load, toOption_bind, toOption_mapError, decoded]
  rw [← toOption_eq_some_iff, ← toOption_eq_some_iff, loaded]

/-- A shape written as the array of its fields, with an escape in its id, and a member with a field
that no decoder knows. -/
def outlineText : String :=
  "\x7b\"smithy\": \"2.0\", \"shapes\": \x7b\"ns#\\u0041\": [\"structure\", " ++
  "\x7b\"x\": \x7b\"target\": \"smithy.api#String\", \"mixin\": [true]\x7d\x7d, " ++
  "null, null, null, [\"x\"]]\x7d\x7d"

/-- The outline is loaded from its text and from its value, and both give the registry of one shape.
-/
theorem outline_loads_alike :
    ∃ value r, Json.ofText outlineText = .ok value ∧ (Tree.ofText outlineText).Regular ∧
      Registry.loadText outlineText = .ok r ∧ Registry.load value = .ok r ∧ r.declared = 1 ∧
      r.toList = [{ id := "ns#A", kind := .record,
                    members := .ofList [("x", ⟨"smithy.api#String", true, []⟩)] }] := by
  have distinct : (Tree.ofText outlineText).Regular := by decide +kernel
  have isValue : (Json.ofText outlineText).isOk = true := by decide +kernel
  have registry : (Registry.loadText outlineText).toOption.map (fun r => (r.declared, r.toList)) =
      some (1, [{ id := "ns#A", kind := .record,
                  members := .ofList [("x", ⟨"smithy.api#String", true, []⟩)] }]) := by
    decide +kernel
  obtain ⟨value, whole⟩ := isOk_iff_exists.1 isValue
  obtain ⟨r, loaded, content⟩ := Option.map_eq_some_iff.1 registry
  have loaded := toOption_eq_some_iff.1 loaded
  obtain ⟨declared, shapes⟩ := Prod.mk.inj content
  exact ⟨value, r, whole, distinct, loaded,
    (Registry.loadText_eq_ok_iff whole distinct r).1 loaded, declared, shapes⟩

end ShapeSchema
