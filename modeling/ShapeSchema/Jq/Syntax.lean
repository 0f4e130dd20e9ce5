/-!
# `ShapeSchema.Jq.Syntax`: filters as they are written
-/

set_option autoImplicit false

namespace ShapeSchema.Jq

/-- The operators of arithmetic. -/
inductive MathOperator where
  | add
  | sub
  | mul
  | div
  | rem
  deriving DecidableEq, Repr

/-- The operators that compare values. -/
inductive Comparison where
  | eq
  | ne
  | lt
  | le
  | gt
  | ge
  deriving DecidableEq, Repr

/-- The operators between two terms. -/
inductive BinaryOperator where
  | pipe
  | comma
  /-- `=`: the right side is computed from the whole input. -/
  | assign
  /-- `|=`: the right side is computed from the part. -/
  | update
  | updateMath (op : MathOperator)
  | updateAlternative
  | alternative
  | or
  | and
  | compare (c : Comparison)
  | math (op : MathOperator)
  deriving DecidableEq, Repr

mutual

/-- The syntax tree of a filter. -/
inductive Term where
  | identity
  | recurse
  | number (text : String)
  | text (format : Option String) (parts : List TextPart)
  | array (body : Option Term)
  | object (fields : List (Term × Option Term))
  | negate (body : Term)
  | binary (op : BinaryOperator) (left right : Term)
  /-- `source as pattern | body`. -/
  | bind (source : Term) (pattern : Pattern) (body : Term)
  | label (name : String) (body : Term)
  | breakTo (name : String)
  | reduce (source : Term) (pattern : Pattern) (arguments : List Term)
  | foreach (source : Term) (pattern : Pattern) (arguments : List Term)
  | attempt (body : Term) (handler : Option Term)
  | cond (branches : List (Term × Term)) (otherwise : Option Term)
  | define (definition : Definition) (body : Term)
  | call (name : String) (arguments : List Term)
  | variable (name : String)
  | path (base : Term) (steps : List Step)

/-- A part of a text: characters, or a term that stands in it. -/
inductive TextPart where
  | chars (s : String)
  | term (t : Term)

/-- A step into a value; an optional one has no outputs where it would fail. -/
inductive Step where
  | index (i : Term) (optional : Bool)
  | slice (first last : Option Term) (optional : Bool)
  | iterate (optional : Bool)

/-- What a value is taken apart by. -/
inductive Pattern where
  | variable (name : String)
  | array (items : List Pattern)
  | object (fields : List (Term × Pattern))

/-- A filter that is defined by a term with parameters. -/
inductive Definition where
  | mk (name : String) (parameters : List String) (body : Term)

end

instance : Inhabited Term := ⟨.identity⟩

end ShapeSchema.Jq
