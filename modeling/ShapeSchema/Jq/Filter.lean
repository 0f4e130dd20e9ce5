import ShapeSchema.Jq.Eval

/-!
# `ShapeSchema.Jq.Filter`: filters over documents

`Jq.apply` runs a filter on a document and returns one document for each output. The first output
that cannot be had, or that is no JSON document, ends it.
-/

set_option autoImplicit false

namespace ShapeSchema.Jq

/-- Why a filter gives no documents. -/
inductive Error where
  /-- The filter does not follow the grammar. -/
  | malformed
  /-- A name in the filter refers to nothing. -/
  | undefined
  /-- Evaluation fails at the output with this number. -/
  | output (position : Nat)
  /-- The output with this number is no JSON document. -/
  | notDocument (position : Nat)
  deriving DecidableEq, Repr

/-- How deep the evaluation of a filter may nest. -/
def depthLimit : Nat := 10000

/-- The documents of outputs from a position on. -/
def documents (position : Nat) : Outputs → Except Error (List Json)
  | .done => .ok []
  | .stopped _ => .error (.output position)
  | .output v rest =>
    match Json.ofText v.text with
    | .error _ => .error (.notDocument position)
    | .ok document => (documents (position + 1) (rest ())).map (document :: ·)

/-- The outputs of a filter on a document. -/
def apply (filter : String) (input : Json) : Except Error (List Json) :=
  match Term.parse? filter with
  | none => .error .malformed
  | some term =>
    if term.isResolved Names.initial then
      documents 0 (eval depthLimit Scope.initial term (.ofJson input))
    else .error .undefined

end ShapeSchema.Jq
