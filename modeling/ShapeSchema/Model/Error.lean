import ShapeSchema.Decode
import ShapeSchema.Json.Printer

/-!
# `ShapeSchema.Model.Error`: what can be wrong with a model

A `Defect` makes the document malformed, whether it shows on loading or only when a shape is
compiled. Besides it a reference may lead nowhere, and a shape may be of a kind that has no schema.
Any of these stops the compilation.
-/

set_option autoImplicit false

namespace ShapeSchema

/-- Which bound of a length is meant. -/
inductive BoundSide where
  | min
  | max
  deriving DecidableEq, Repr

/-- The name of the side, as the document has it. -/
def BoundSide.name : BoundSide → String
  | .min => "min"
  | .max => "max"

/-- What is wrong with a model. -/
inductive Defect where
  /-- The document does not have the form of a model. -/
  | misfit (m : Misfit)
  | noShapes
  /-- A shape requires a member that it does not declare. -/
  | strayRequired (shape member : String)
  | traitNotText (owner name : String) (payload : Json)
  | traitBounds (owner name : String) (m : Misfit)
  | enumPayload (owner : String) (payload : Json)
  | enumWithoutValue (owner : String) (descriptor : Json)
  | enumDescriptor (owner : String) (descriptor : Json)
  | lengthNotCount (shape : String) (side : BoundSide) (bound : Double)
  | lengthInverted (shape : String) (min max : UInt64)
  | rangeInverted (shape : String) (min max : Double)
  | listWithoutMember (shape : String)
  | mapWithoutValue (shape : String)

/-- The text of a defect, which names the shape or the trait. -/
def Defect.message : Defect → String
  | .misfit m => m.message
  | .noShapes => "document has no `shapes` mapping"
  | .strayRequired shape member => s!"{shape}: required member `{member}` is not declared"
  | .traitNotText owner name payload =>
    s!"{owner}: trait `{name}` expects a string, got {payload.compact}"
  | .traitBounds owner name m => s!"{owner}: trait `{name}`: {m.detail}"
  | .enumPayload owner payload =>
    s!"{owner}: enum trait expects a sequence or mapping, got {payload.compact}"
  | .enumWithoutValue owner descriptor =>
    s!"{owner}: enum descriptor without a string `value`: {descriptor.compact}"
  | .enumDescriptor owner descriptor =>
    s!"{owner}: unexpected enum descriptor {descriptor.compact}"
  | .lengthNotCount shape side bound =>
    s!"{shape}: length {side.name} must be a non-negative integer, got {bound.plain}"
  | .lengthInverted shape min max => s!"{shape}: length min {min} exceeds max {max}"
  | .rangeInverted shape min max =>
    s!"{shape}: range min {min.plain} exceeds max {max.plain}"
  | .listWithoutMember shape => s!"{shape}: list has no `member` target"
  | .mapWithoutValue shape => s!"{shape}: map has no `value` target"

/-- Why a model cannot be loaded, or a shape cannot be compiled. -/
inductive ModelError where
  | malformed (defect : Defect)
  | shapeNotFound (id : String)
  | unsupportedShape (id kind : String)

/-- The text of an error. -/
def ModelError.message : ModelError → String
  | .malformed defect => s!"malformed model: {defect.message}"
  | .shapeNotFound id => s!"shape not found: {id}"
  | .unsupportedShape id kind => s!"unsupported shape kind `{kind}` for {id}"

end ShapeSchema
