import ShapeSchema.Model.Declaration
import ShapeSchema.Proofs.Decode.Record

/-!
# `ShapeSchema.Proofs.Model.Declaration`: what the decoders of a model read

For each record of a model, what its decoder makes of a value, as a sequence of look-ups of parts.
-/

set_option autoImplicit false

namespace ShapeSchema

open Decoder (Faithful Reads Reading Field reads_string reads_json)

/-! ### The decoders are faithful -/

/-- What stands for a shape in a reference is read as it is written. -/
theorem faithful_targetFields : ∀ f ∈ targetFields, Faithful f.read := by
  simp only [targetFields, List.forall_mem_cons]
  exact ⟨(reads_string.set _).faithful, by simp⟩

/-- References to shapes are read from the value that a tree holds. -/
theorem faithful_targetDecoder : Faithful targetDecoder :=
  (Reads.record _ faithful_targetFields _).faithful

/-- Each field of a member is read from the value that its tree holds. -/
theorem MemberDeclaration.faithful_fields : ∀ f ∈ MemberDeclaration.fields, Faithful f.read := by
  simp only [fields, List.forall_mem_cons]
  exact ⟨(reads_string.set _).faithful, (reads_json.map.set _).faithful, by simp⟩

/-- Members are read from the value that a tree holds. -/
theorem MemberDeclaration.faithful_decoder : Faithful MemberDeclaration.decoder :=
  (Reads.record _ faithful_fields _).faithful

/-- Each field of a shape is read from the value that its tree holds. -/
theorem Declaration.faithful_fields : ∀ f ∈ Declaration.fields, Faithful f.read := by
  have member := MemberDeclaration.faithful_decoder
  have target := faithful_targetDecoder
  simp only [fields, List.forall_mem_cons]
  exact ⟨(reads_string.set _).faithful, (member.map.set _).faithful,
    (member.option.set _).faithful, (member.option.set _).faithful, (member.option.set _).faithful,
    (reads_string.list.set _).faithful, (reads_json.map.set _).faithful,
    (target.option.set _).faithful, (target.option.set _).faithful, (target.list.set _).faithful,
    (target.map.set _).faithful, by simp⟩

/-- Shapes are read from the value that a tree holds. -/
theorem Declaration.faithful_decoder : Faithful Declaration.decoder :=
  (Reads.record _ faithful_fields _).faithful

/-- Each field of a model is read from the value that its tree holds. -/
theorem Document.faithful_fields : ∀ f ∈ Document.fields, Faithful f.read := by
  have declaration := Declaration.faithful_decoder
  simp only [fields, List.forall_mem_cons]
  exact ⟨(reads_string.option.set _).faithful, (declaration.map.option.set _).faithful, by simp⟩

/-- Models are read from the value that a tree holds. -/
theorem Document.faithful_decoder : Faithful Document.decoder :=
  (Reads.record _ faithful_fields _).faithful

/-! ### The fields of a record set different parts -/

/-- The fields of a member may be written in any order. -/
theorem MemberDeclaration.commuting_fields : MemberDeclaration.fields.Pairwise Field.Commutes := by
  simp only [fields, List.pairwise_cons, List.forall_mem_cons]
  refine ⟨⟨?_, by simp⟩, by simp⟩
  exact (Field.sets_needed _ _ _).commutes (Field.sets_optional _ _ _) fun _ _ _ => rfl

/-- The fields of a shape may be written in any order. -/
theorem Declaration.commuting_fields : Declaration.fields.Pairwise Field.Commutes := by
  simp only [fields, List.pairwise_cons, List.forall_mem_cons]
  and_intros
  all_goals first
    | exact (Field.sets_needed _ _ _).commutes (Field.sets_optional _ _ _) fun _ _ _ => rfl
    | exact (Field.sets_optional _ _ _).commutes (Field.sets_optional _ _ _) fun _ _ _ => rfl
    | simp

/-- The fields of a model may be written in any order. -/
theorem Document.commuting_fields : Document.fields.Pairwise Field.Commutes := by
  simp only [fields, List.pairwise_cons, List.forall_mem_cons]
  refine ⟨⟨?_, by simp⟩, by simp⟩
  exact (Field.sets_optional _ _ _).commutes (Field.sets_optional _ _ _) fun _ _ _ => rfl

/-! ### What is read, part by part -/

section Parts

variable {value : Json} (regular : value.Regular fun _ => True)
include regular

/-- A member is read from its two parts. It needs a target, and it has no traits unless they are
written. -/
theorem MemberDeclaration.reading_eq :
    MemberDeclaration.decoder.reading value =
      if value.isRecord 2 then do
        let target ← (value.part? 0 "target").bind Json.asString?
        let traits ← Reading.map some (value.partOr 1 "traits" (.object []))
        return ⟨target, traits⟩
      else none := by
  rw [decoder, Decoder.reading_record _ faithful_fields (by decide) commuting_fields _ regular,
    fields, Reading.gather_needed regular reads_string fun _ =>
      Reading.gather_optional regular reads_json.map (.object []) rfl rfl fun _ => rfl]
  rfl

/-- A shape is read from its eleven parts. It needs a type, and every other part has a default. -/
theorem Declaration.reading_eq :
    Declaration.decoder.reading value =
      if value.isRecord 11 then do
        let kind ← (value.part? 0 "type").bind Json.asString?
        let members ← Reading.map MemberDeclaration.decoder.reading
          (value.partOr 1 "members" (.object []))
        let member ← Reading.option MemberDeclaration.decoder.reading
          (value.partOr 2 "member" .null)
        let key ← Reading.option MemberDeclaration.decoder.reading (value.partOr 3 "key" .null)
        let element ← Reading.option MemberDeclaration.decoder.reading
          (value.partOr 4 "value" .null)
        let required ← Reading.list Json.asString? (value.partOr 5 "required" (.array []))
        let traits ← Reading.map some (value.partOr 6 "traits" (.object []))
        let input ← Reading.option targetDecoder.reading (value.partOr 7 "input" .null)
        let output ← Reading.option targetDecoder.reading (value.partOr 8 "output" .null)
        let operations ← Reading.list targetDecoder.reading
          (value.partOr 9 "operations" (.array []))
        let identifiers ← Reading.map targetDecoder.reading
          (value.partOr 10 "identifiers" (.object []))
        return ⟨kind, members, member, key, element, required, traits, input, output, operations,
          identifiers⟩
      else none := by
  have member := MemberDeclaration.faithful_decoder
  have target := faithful_targetDecoder
  -- Each field with a default is given the value from which its default would be read.
  rw [decoder, Decoder.reading_record _ faithful_fields (by decide) commuting_fields _ regular,
    fields, Reading.gather_needed regular reads_string fun _ =>
      Reading.gather_optional regular member.map (.object []) rfl rfl fun _ =>
      Reading.gather_optional regular member.option .null rfl rfl fun _ =>
      Reading.gather_optional regular member.option .null rfl rfl fun _ =>
      Reading.gather_optional regular member.option .null rfl rfl fun _ =>
      Reading.gather_optional regular reads_string.list (.array []) rfl rfl fun _ =>
      Reading.gather_optional regular reads_json.map (.object []) rfl rfl fun _ =>
      Reading.gather_optional regular target.option .null rfl rfl fun _ =>
      Reading.gather_optional regular target.option .null rfl rfl fun _ =>
      Reading.gather_optional regular target.list (.array []) rfl rfl fun _ =>
      Reading.gather_optional regular target.map (.object []) rfl rfl fun _ => rfl]
  rfl

/-- A model is read from its two parts, of which it needs neither. -/
theorem Document.reading_eq :
    Document.decoder.reading value =
      if value.isRecord 2 then do
        let version ← Reading.option Json.asString? (value.partOr 0 "smithy" .null)
        let shapes ← Reading.option (Reading.map Declaration.decoder.reading)
          (value.partOr 1 "shapes" .null)
        return ⟨version, shapes⟩
      else none := by
  have declaration := Declaration.faithful_decoder
  rw [decoder, Decoder.reading_record _ faithful_fields (by decide) commuting_fields _ regular,
    fields, Reading.gather_optional regular reads_string.option .null rfl rfl fun _ =>
      Reading.gather_optional regular declaration.map.option .null rfl rfl fun _ => rfl]
  rfl

end Parts

end ShapeSchema
