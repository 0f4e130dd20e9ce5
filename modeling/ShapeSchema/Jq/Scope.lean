import ShapeSchema.Jq.Builtin
import ShapeSchema.Jq.Prelude

/-!
# `ShapeSchema.Jq.Scope`: what the names of a filter refer to

Bindings form a list, the innermost first. A definition sees itself and everything outside of it, so
the scope of its body is the list from the definition on.

`Term.isResolved` checks that every name of a term refers to something, before it is run.
-/

set_option autoImplicit false

namespace ShapeSchema.Jq

/-- What a name stands for. -/
inductive Binding where
  | value (name : String) (v : Value)
  /-- A filter passed as an argument, with the scope that it was written in. -/
  | closure (name : String) (body : Term) (scope : List Binding)
  | definition (name : String) (parameters : List String) (body : Term)
  | label (name : String) (number : Nat)

/-- The bindings in reach, the innermost first. -/
abbrev Scope := List Binding

namespace Scope

/-- A definition binds its name. -/
def ofDefinition : Definition → Binding
  | .mk name parameters body => .definition name parameters body

/-- The scope of a filter: the prelude, around it an empty environment. -/
def initial : Scope :=
  prelude.reverse.map ofDefinition ++ [.value "ENV" (.object [])]

/-- The innermost value of a name. -/
def value? (name : String) : Scope → Option Value
  | [] => none
  | .value n v :: rest => if n = name then some v else value? name rest
  | _ :: rest => value? name rest

/-- The innermost label of a name. -/
def label? (name : String) : Scope → Option Nat
  | [] => none
  | .label n number :: rest => if n = name then some number else label? name rest
  | _ :: rest => label? name rest

/-- What a call runs: a body, the names of its parameters, and the scope around it. -/
structure Callee where
  parameters : List String
  body : Term
  scope : Scope

/-- The innermost filter with a name and a number of arguments. -/
def callee? (name : String) (arity : Nat) : Scope → Option Callee
  | [] => none
  | .closure n body scope :: rest =>
    if n = name ∧ arity = 0 then some ⟨[], body, scope⟩ else callee? name arity rest
  | .definition n parameters body :: rest =>
    if n = name ∧ arity = parameters.length then
      some ⟨parameters, body, .definition n parameters body :: rest⟩
    else callee? name arity rest
  | _ :: rest => callee? name arity rest

end Scope

/-- The filters that take filters as arguments, and have no definition. -/
def higherOrder : List (String × Nat) :=
  [("first", 1), ("limit", 2), ("skip", 2), ("isempty", 1), ("sort_by", 1), ("group_by", 1),
   ("range", 2), ("path", 1)]

/-- A name refers to a filter of its own. -/
def isKnownFilter (name : String) (arity : Nat) : Bool :=
  (Builtin.find? name arity).isSome || higherOrder.contains (name, arity)
    || (arity == 0 && Format.names.any fun f => "@" ++ f == name)

/-! ### Resolution -/

/-- The names that are visible somewhere. -/
structure Names where
  values : List String
  filters : List (String × Nat)
  labels : List String

namespace Names

/-- With one more variable. -/
def addValue (n : Names) (name : String) : Names := { n with values := name :: n.values }

/-- With one more filter. -/
def addFilter (n : Names) (name : String) (arity : Nat) : Names :=
  { n with filters := (name, arity) :: n.filters }

/-- A parameter is a filter, and with a dollar before it a value too. -/
def addParameter (n : Names) (parameter : String) : Names :=
  match parameter.toList with
  | '$' :: rest => (n.addFilter (String.ofList rest) 0).addValue (String.ofList rest)
  | _ => n.addFilter parameter 0

/-- The names of the initial scope. -/
def initial : Names where
  values := ["ENV", "__loc__"]
  filters := prelude.map fun d => match d with
    | .mk name parameters _ => (name, parameters.length)
  labels := []

end Names

mutual

/-- The variables of a pattern, after those it stands beside. -/
def Pattern.names (n : Names) : Pattern → Names
  | .variable name => n.addValue name
  | .array items => patternListNames n items
  | .object fields => patternFieldNames n fields

/-- With the variables of patterns. -/
def patternListNames (n : Names) : List Pattern → Names
  | [] => n
  | p :: ps => patternListNames (Pattern.names n p) ps

/-- With the variables of the patterns of fields. -/
def patternFieldNames (n : Names) : List (Term × Pattern) → Names
  | [] => n
  | (_, p) :: ps => patternFieldNames (Pattern.names n p) ps

end

mutual

/-- Every name in the term refers to something. -/
def Term.isResolved (n : Names) : Term → Bool
  | .identity | .recurse | .number _ => true
  | .text format parts =>
    (format.all fun f => Format.names.contains f) && arePartsResolved n parts
  | .array none => true
  | .array (some body) => body.isResolved n
  | .object fields => areFieldsResolved n fields
  | .negate body => body.isResolved n
  | .binary _ left right => left.isResolved n && right.isResolved n
  | .bind source pattern body => source.isResolved n && body.isResolved (pattern.names n)
  | .label name body => body.isResolved { n with labels := name :: n.labels }
  | .breakTo name => n.labels.contains name
  | .reduce source pattern arguments =>
    source.isResolved n && areResolvedWithin (pattern.names n) n arguments
  | .foreach source pattern arguments =>
    source.isResolved n && areResolvedWithin (pattern.names n) n arguments
  | .attempt body none => body.isResolved n
  | .attempt body (some handler) => body.isResolved n && handler.isResolved n
  | .cond branches none => areBranchesResolved n branches
  | .cond branches (some otherwise) => areBranchesResolved n branches && otherwise.isResolved n
  | .define (.mk name parameters inner) body =>
    let outer := n.addFilter name parameters.length
    inner.isResolved (parameters.foldl Names.addParameter outer) && body.isResolved outer
  | .call name arguments =>
    (n.filters.contains (name, arguments.length) || isKnownFilter name arguments.length)
      && areResolved n arguments
  | .variable name => n.values.contains name
  | .path base steps => base.isResolved n && areStepsResolved n steps

/-- Every name in the terms is known. -/
def areResolved (n : Names) : List Term → Bool
  | [] => true
  | t :: ts => t.isResolved n && areResolved n ts

/-- The first argument of a fold is outside of its pattern, the others are inside. -/
def areResolvedWithin (inner outer : Names) : List Term → Bool
  | [] => true
  | t :: ts => t.isResolved outer && areResolved inner ts

/-- Every name in the parts of a text is known. -/
def arePartsResolved (n : Names) : List TextPart → Bool
  | [] => true
  | .chars _ :: ps => arePartsResolved n ps
  | .term t :: ps => t.isResolved n && arePartsResolved n ps

/-- Every name in the fields of an object is known. -/
def areFieldsResolved (n : Names) : List (Term × Option Term) → Bool
  | [] => true
  | (key, none) :: fs => key.isResolved n && areFieldsResolved n fs
  | (key, some value) :: fs => key.isResolved n && value.isResolved n && areFieldsResolved n fs

/-- Every name in the branches of a condition is known. -/
def areBranchesResolved (n : Names) : List (Term × Term) → Bool
  | [] => true
  | (c, b) :: bs => c.isResolved n && b.isResolved n && areBranchesResolved n bs

/-- Every name in the steps of a path is known. -/
def areStepsResolved (n : Names) : List Step → Bool
  | [] => true
  | .index i _ :: ss => i.isResolved n && areStepsResolved n ss
  | .slice first last _ :: ss =>
    isOptionResolved n first && isOptionResolved n last && areStepsResolved n ss
  | .iterate _ :: ss => areStepsResolved n ss

/-- Every name in a term is known, if the term is there. -/
def isOptionResolved (n : Names) : Option Term → Bool
  | none => true
  | some t => t.isResolved n

end

end ShapeSchema.Jq
