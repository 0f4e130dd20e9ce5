import ShapeSchema.Jq.Value

/-!
# `ShapeSchema.Jq.Outputs`: the outputs of a filter

A filter may have any number of outputs, even without end, so the outputs after the first are
computed on demand. They end, or they break off: with an error that a filter can catch, with a jump
to a label, or because the depth of evaluation is used up.
-/

set_option autoImplicit false

namespace ShapeSchema.Jq

/-- Why outputs break off. -/
inductive Break where
  | error (v : Value)
  /-- A jump to the label with this number. -/
  | jump (label : Nat)
  | depth

/-- Outputs one after the other, each computed when it is asked for, up to the end or to what stops
them. -/
inductive Outputs where
  | done
  | stopped (b : Break)
  | output (v : Value) (rest : Unit → Outputs)

namespace Outputs

instance : Inhabited Outputs := ⟨.done⟩

/-- A single output. -/
def one (v : Value) : Outputs := .output v fun _ => .done

/-- An error in the place of an output. -/
def error (v : Value) : Outputs := .stopped (.error v)

/-- An error with a message. -/
def message (text : String) : Outputs := error (.string text)

/-- The output of a computation, or its error. -/
def ofExcept (r : Except Fault Value) : Outputs :=
  match r with
  | .ok v => one v
  | .error e => error e

/-- The outputs of a list. -/
def ofList (vs : List Value) : Outputs := vs.foldr (fun v rest => .output v fun _ => rest) .done

/-- All outputs of a computation, or its error. -/
def ofExceptList (r : Except Fault (List Value)) : Outputs :=
  match r with
  | .ok vs => ofList vs
  | .error e => error e

/-- Further outputs after the end. -/
def append : Outputs → (Unit → Outputs) → Outputs
  | .done, next => next ()
  | .stopped b, _ => .stopped b
  | .output v rest, next => .output v fun u => (rest u).append next

/-- The outputs of a filter on every output. -/
def bind : Outputs → (Value → Outputs) → Outputs
  | .done, _ => .done
  | .stopped b, _ => .stopped b
  | .output v rest, f => (f v).append fun u => (rest u).bind f

/-- Every output mapped, up to the first for which that fails. -/
def map (f : Value → Except Fault Value) (o : Outputs) : Outputs := o.bind fun v => ofExcept (f v)

/-- The outputs that pass a test. -/
def filter (p : Value → Bool) (o : Outputs) : Outputs :=
  o.bind fun v => if p v then one v else .done

/-- Hands an error on to a handler, with no more outputs of the filter that raised it. -/
def recover (handler : Value → Outputs) : Outputs → Outputs
  | .done => .done
  | .stopped (.error e) => handler e
  | .stopped b => .stopped b
  | .output v rest => .output v fun u => recover handler (rest u)

/-- Ends where a jump to the label arrives. -/
def untilJump (label : Nat) : Outputs → Outputs
  | .done => .done
  | .stopped (.jump l) => if l = label then .done else .stopped (.jump l)
  | .stopped b => .stopped b
  | .output v rest => .output v fun u => untilJump label (rest u)

/-- The first outputs, at most `n`. -/
def take : Nat → Outputs → Outputs
  | 0, _ => .done
  | n + 1, .output v rest => if n = 0 then one v else .output v fun u => take n (rest u)
  | _ + 1, o => o

/-- All outputs but the first `n`. -/
def drop : Nat → Outputs → Outputs
  | 0, o => o
  | n + 1, .output _ rest => drop n (rest ())
  | _ + 1, o => o

/-- All outputs as a list, last first, and why they break off. -/
def gather (seen : List Value) : Outputs → List Value × Option Break
  | .done => (seen, none)
  | .stopped b => (seen, some b)
  | .output v rest => gather (v :: seen) (rest ())

/-- Continues with all outputs at once. -/
def collect (o : Outputs) (k : List Value → Outputs) : Outputs :=
  match o.gather [] with
  | (seen, none) => k seen.reverse
  | (_, some b) => .stopped b

/-- Folds over outputs, with a step from a state and an output; every state goes on separately. -/
def fold (step : Value → Value → Outputs) : Outputs → Value → Outputs
  | .done, state => one state
  | .stopped b, _ => .stopped b
  | .output v rest, state => (step state v).bind fun s => fold step (rest ()) s

/-- Folds, with an output for every state. -/
def scan (step emit : Value → Value → Outputs) : Outputs → Value → Outputs
  | .done, _ => .done
  | .stopped b, _ => .stopped b
  | .output v rest, state =>
    (step state v).bind fun s => (emit s v).append fun _ => scan step emit (rest ()) s

end Outputs

end ShapeSchema.Jq
