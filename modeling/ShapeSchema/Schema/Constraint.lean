import ShapeSchema.Model.Shape
import ShapeSchema.Schema.Node

/-!
# `ShapeSchema.Schema.Constraint`: constraints from traits

Bounds that contradict themselves make the model malformed. A pattern that the engine rejects does
not: it is dropped, and the caller gets it back with the reason.
-/

set_option autoImplicit false

namespace ShapeSchema

/-- A bound of a length as a count: not negative, without a fraction, and at most `2 ^ 64`, where it
is taken for the largest count. -/
def lengthBound (shape : String) (side : BoundSide) (bound : Double) : Except Defect UInt64 :=
  if bound.lt .zero || !bound.isIntegral || 0x10000000000000000 < bound.toInt then
    .error (.lengthNotCount shape side bound)
  else .ok (.ofNat (bound.clampTo 0 0xFFFFFFFFFFFFFFFF).toNat)

/-- A bound that may be absent. -/
def lengthBound? (shape : String) (side : BoundSide) : Option Double → Except Defect (Option UInt64)
  | none => .ok none
  | some bound => (lengthBound shape side bound).map some

/-- The length constraint of a string or a list. -/
def lengthConstraint (shape : String) (traits : List Trait) : Except Defect Length :=
  match Trait.length? traits with
  | none => .ok {}
  | some bounds => do
    let min ← lengthBound? shape .min bounds.min
    let max ← lengthBound? shape .max bounds.max
    match min, max with
    | some lo, some hi => if hi < lo then .error (.lengthInverted shape lo hi) else .ok ⟨min, max⟩
    | _, _ => .ok ⟨min, max⟩

/-- The range constraint of a number. -/
def rangeConstraint (shape : String) (traits : List Trait) : Except Defect Bounds :=
  match Trait.range? traits with
  | none => .ok {}
  | some bounds =>
    match bounds.min, bounds.max with
    | some lo, some hi => if hi.lt lo then .error (.rangeInverted shape lo hi) else .ok bounds
    | _, _ => .ok bounds

/-- A pattern that the engine does not accept, with its message. -/
structure RejectedPattern where
  source : String
  reason : String
  deriving DecidableEq, Repr

/-- What the traits of a text ask for, and the pattern that was rejected, if one was. -/
structure StringConstraint where
  pattern : Option Regex := none
  length : Length := {}
  rejected : Option RejectedPattern := none

/-- The constraints of a string. The length comes first, so a bad length is reported even if the
pattern is bad too. -/
def stringConstraint (shape : String) (traits : List Trait) : Except Defect StringConstraint := do
  let length ← lengthConstraint shape traits
  match Trait.pattern? traits with
  | none => return { length }
  | some source =>
    match Regex.compile source with
    | .ok pattern => return { pattern := some pattern, length }
    | .error e => return { length, rejected := some ⟨source, e.render source⟩ }

end ShapeSchema
