import ShapeSchema.Jq.Lexer

/-!
# `ShapeSchema.Jq.Parser`: tokens into terms

Terms with operators between them are read into a list first, which `climb` then groups by
precedence: the operators bind tighter from pipe over comma, the assignments, `//`, `or`, `and` and
the comparisons to addition, multiplication and remainder. Pipes, assignments and `//` group to the
right, all others to the left.
-/

set_option autoImplicit false

namespace ShapeSchema.Jq

/-- How tightly an operator binds. -/
def BinaryOperator.precedence : BinaryOperator → Nat
  | .pipe => 0
  | .comma => 1
  | .assign | .update | .updateMath _ | .updateAlternative => 2
  | .alternative => 3
  | .or => 4
  | .and => 5
  | .compare _ => 6
  | .math .add | .math .sub => 7
  | .math .mul | .math .div => 8
  | .math .rem => 9

/-- A chain of the operator is grouped from the right. -/
def BinaryOperator.groupsRight : BinaryOperator → Bool
  | .pipe | .assign | .update | .updateMath _ | .updateAlternative | .alternative => true
  | _ => false

namespace Parser

/-- Groups a first term and the operators and terms after it. Operators weaker than `least` are left
over. -/
def climb : Nat → Nat → Term → List (BinaryOperator × Term) →
    Term × List (BinaryOperator × Term)
  | 0, _, left, rest => (left, rest)
  | _ + 1, _, left, [] => (left, [])
  | fuel + 1, least, left, (op, right) :: rest =>
    if op.precedence < least then (left, (op, right) :: rest)
    else
      let inner := if op.groupsRight then op.precedence else op.precedence + 1
      let (right, rest) := climb fuel inner right rest
      climb fuel least (.binary op left right) rest

/-- The operator of a run of characters. -/
def operator? (chars : String) : Option BinaryOperator :=
  match chars with
  | "|" => some .pipe
  | "=" => some .assign
  | "|=" => some .update
  | "+=" => some (.updateMath .add)
  | "-=" => some (.updateMath .sub)
  | "*=" => some (.updateMath .mul)
  | "/=" => some (.updateMath .div)
  | "%=" => some (.updateMath .rem)
  | "//=" => some .updateAlternative
  | "//" => some .alternative
  | "==" => some (.compare .eq)
  | "!=" => some (.compare .ne)
  | "<" => some (.compare .lt)
  | "<=" => some (.compare .le)
  | ">" => some (.compare .gt)
  | ">=" => some (.compare .ge)
  | "+" => some (.math .add)
  | "-" => some (.math .sub)
  | "*" => some (.math .mul)
  | "/" => some (.math .div)
  | "%" => some (.math .rem)
  | _ => none

/-- The operator that a token is, where a comma may be one. -/
def tokenOperator? (withComma : Bool) : Token → Option BinaryOperator
  | .operator chars => operator? chars
  | .word "or" => some .or
  | .word "and" => some .and
  | .mark "," => if withComma then some .comma else none
  | _ => none

/-- Words that are no names of filters. -/
def isReserved (name : String) : Bool :=
  ["def", "if", "then", "elif", "else", "end", "and", "or", "as", "reduce", "foreach", "label",
    "break", "try", "catch", "import", "include", "__loc__"].contains name

/-- Reads from the front of a list of tokens. -/
abbrev Read := StateT (List Token) Option

/-- The next token, which is passed. -/
def token : Read Token := do
  match ← get with
  | [] => failure
  | t :: rest => do
    set rest
    return t

/-- Passes a token of a certain form. -/
def expect (p : Token → Bool) : Read Unit := do
  if p (← token) then return () else failure

/-- Takes a mark that has to be there. -/
def mark (chars : String) : Read Unit := expect (Token.isMark chars)

/-- Passes a mark if it comes next. -/
def mark? (chars : String) : Read Bool := do
  match ← get with
  | t :: rest => if t.isMark chars then do set rest; return true else return false
  | [] => return false

/-- Passes a word if it comes next. -/
def word? (name : String) : Read Bool := do
  match ← get with
  | t :: rest => if t.isWord name then do set rest; return true else return false
  | [] => return false

/-- The name of a variable. -/
def variableName : Read String := do
  match ← token with
  | .variable name => return name
  | _ => failure

/-- The names of a definition's parameters, up to the closing parenthesis. -/
def parameters : Nat → Read (List String)
  | 0 => failure
  | fuel + 1 => do
    let name ← match ← token with
      | .word name => pure name
      | .variable name => pure ("$" ++ name)
      | _ => failure
    if ← mark? ";" then return name :: (← parameters fuel)
    mark ")"
    return [name]

/-- A step with a question mark after it. -/
def optionalStep : Step → Step
  | .index i _ => .index i true
  | .slice first last _ => .slice first last true
  | .iterate _ => .iterate true

mutual

/-- A term with operators. -/
def term (withComma : Bool) : Nat → Read Term
  | 0 => failure
  | fuel + 1 => do
    if ← word? "def" then
      let definition ← definition fuel
      return .define definition (← term withComma fuel)
    let head ← bound withComma fuel
    let rest ← operands withComma fuel
    return (climb (2 * rest.length + 1) 0 head rest).1

/-- The operators after a term, with the terms that follow them. -/
def operands (withComma : Bool) : Nat → Read (List (BinaryOperator × Term))
  | 0 => failure
  | fuel + 1 => do
    match ← get with
    | [] => return []
    | t :: rest =>
      match tokenOperator? withComma t with
      | none => return []
      | some op =>
        set rest
        if op = .pipe && (← word? "def") then
          let definition ← definition fuel
          return [(op, .define definition (← term withComma fuel))]
        let operand ← bound withComma fuel
        return (op, operand) :: (← operands withComma fuel)

/-- A term without operators, which may bind variables for the terms after a bar. -/
def bound (withComma : Bool) : Nat → Read Term
  | 0 => failure
  | fuel + 1 => do
    let source ← postfixed fuel
    if ← word? "as" then
      let pattern ← pattern fuel
      expect fun t => match t with
        | .operator "|" => true
        | _ => false
      return .bind source pattern (← term withComma fuel)
    return source

/-- A definition, whose keyword is passed. -/
def definition : Nat → Read Definition
  | 0 => failure
  | fuel + 1 => do
    match ← token with
    | .word name => do
      let names ← if ← mark? "(" then parameters fuel else pure []
      mark ":"
      let body ← term true fuel
      mark ";"
      return .mk name names body
    | _ => failure

/-- A pattern of variables. -/
def pattern : Nat → Read Pattern
  | 0 => failure
  | fuel + 1 => do
    match ← token with
    | .variable name => return .variable name
    | .mark "[" => return .array (← patternItems fuel)
    | .mark "\x7b" => return .object (← patternFields fuel)
    | _ => failure

/-- The patterns of the items of an array, up to its end. -/
def patternItems : Nat → Read (List Pattern)
  | 0 => failure
  | fuel + 1 => do
    let first ← pattern fuel
    if ← mark? "," then return first :: (← patternItems fuel)
    mark "]"
    return [first]

/-- The patterns of the fields of an object, up to its end. -/
def patternFields : Nat → Read (List (Term × Pattern))
  | 0 => failure
  | fuel + 1 => do
    let first ← patternField fuel
    if ← mark? "," then return first :: (← patternFields fuel)
    mark "\x7d"
    return [first]

/-- A field with its pattern, or a variable that is both. -/
def patternField : Nat → Read (Term × Pattern)
  | 0 => failure
  | fuel + 1 => do
    match ← get with
    | .variable name :: rest => do
      set rest
      return (.text none [.chars name], .variable name)
    | _ => do
      let key ← objectKey fuel
      mark ":"
      return (key, ← pattern fuel)

/-- The key of a field, other than a variable. -/
def objectKey : Nat → Read Term
  | 0 => failure
  | fuel + 1 => do
    match ← token with
    | .word name => return .text none [.chars name]
    | .text parts => return .text none (← textParts fuel parts)
    | .format format =>
      match ← token with
      | .text parts => return .text (some format) (← textParts fuel parts)
      | _ => failure
    | .mark "(" => do
      let key ← term true fuel
      mark ")"
      return key
    | _ => failure

/-- The fields of an object, up to the closing brace. -/
def objectFields : Nat → Read (List (Term × Option Term))
  | 0 => failure
  | fuel + 1 => do
    if ← mark? "\x7d" then return []
    let first ← objectField fuel
    if ← mark? "," then return first :: (← objectFields fuel)
    mark "\x7d"
    return [first]

/-- A field of an object. A lone name stands for the field of the input, a lone variable for its
value. -/
def objectField : Nat → Read (Term × Option Term)
  | 0 => failure
  | fuel + 1 => do
    match ← get with
    | .variable name :: rest => do
      set rest
      return (.text none [.chars name], some (.variable name))
    | _ => do
      let key ← objectKey fuel
      if ← mark? ":" then return (key, some (← term false fuel)) else return (key, none)

/-- The parts of a text. -/
def textParts : Nat → List TokenPart → Read (List TextPart)
  | 0, _ => failure
  | _ + 1, [] => return []
  | fuel + 1, .chars s :: parts => do return .chars s :: (← textParts fuel parts)
  | fuel + 1, .tokens ts :: parts => do
    let saved ← get
    set ts
    let inner ← term true fuel
    if !(← get).isEmpty then failure
    set saved
    return .term inner :: (← textParts fuel parts)

/-- The arguments of a call, up to the closing parenthesis. -/
def arguments : Nat → Read (List Term)
  | 0 => failure
  | fuel + 1 => do
    let first ← term true fuel
    if ← mark? ";" then return first :: (← arguments fuel)
    mark ")"
    return [first]

/-- Arguments in parentheses, which have to be there. -/
def neededArguments : Nat → Read (List Term)
  | 0 => failure
  | fuel + 1 => do
    mark "("
    arguments fuel

/-- The branches of a condition after its first keyword, up to `end`. -/
def branches : Nat → Read (List (Term × Term) × Option Term)
  | 0 => failure
  | fuel + 1 => do
    let condition ← term true fuel
    expect (Token.isWord "then")
    let body ← term true fuel
    if ← word? "elif" then
      let (more, otherwise) ← branches fuel
      return ((condition, body) :: more, otherwise)
    if ← word? "else" then
      let otherwise ← term true fuel
      expect (Token.isWord "end")
      return ([(condition, body)], some otherwise)
    expect (Token.isWord "end")
    return ([(condition, body)], none)

/-- A term without operators and steps. -/
def atom : Nat → Read Term
  | 0 => failure
  | fuel + 1 => do
    match ← token with
    | .number text => return .number text
    | .text parts => return .text none (← textParts fuel parts)
    | .format format =>
      match ← get with
      | .text parts :: rest => do
        set rest
        return .text (some format) (← textParts fuel parts)
      | _ => return .call ("@" ++ format) []
    | .variable name => return .variable name
    | .field name => return .path .identity [.index (.text none [.chars name]) (← mark? "?")]
    | .mark ".." => return .recurse
    -- A point before a text is a field. Alone it is the value itself.
    | .mark "." =>
      match ← get with
      | .text parts :: rest => do
        set rest
        let key : Term := .text none (← textParts fuel parts)
        return .path .identity [.index key (← mark? "?")]
      | _ => return .identity
    | .mark "(" => do
      let inner ← term true fuel
      mark ")"
      return inner
    | .mark "[" => do
      if ← mark? "]" then return .array none
      let inner ← term true fuel
      mark "]"
      return .array (some inner)
    | .mark "\x7b" => return .object (← objectFields fuel)
    | .operator "-" => return .negate (← postfixed fuel)
    | .word "if" => do
      let (bs, otherwise) ← branches fuel
      return .cond bs otherwise
    | .word "try" => do
      let body ← postfixed fuel
      if ← word? "catch" then return .attempt body (some (← postfixed fuel))
      return .attempt body none
    | .word "label" => do
      let name ← variableName
      expect fun t => match t with
        | .operator "|" => true
        | _ => false
      return .label name (← term true fuel)
    | .word "break" => return .breakTo (← variableName)
    | .word "reduce" => do
      let source ← postfixed fuel
      expect (Token.isWord "as")
      let pattern ← pattern fuel
      return .reduce source pattern (← neededArguments fuel)
    | .word "foreach" => do
      let source ← postfixed fuel
      expect (Token.isWord "as")
      let pattern ← pattern fuel
      return .foreach source pattern (← neededArguments fuel)
    | .word name =>
      -- A word of the language is no filter.
      if isReserved name then failure
      if ← mark? "(" then return .call name (← arguments fuel) else return .call name []
    | _ => failure

/-- A term without operators. -/
def postfixed : Nat → Read Term
  | 0 => failure
  | fuel + 1 => do steps (← atom fuel) fuel

/-- The steps after a term. -/
def steps (base : Term) : Nat → Read Term
  | 0 => failure
  | fuel + 1 => do
    let step (s : Step) : Term := match base with
      | .path inner earlier => .path inner (earlier ++ [s])
      | base => .path base [s]
    match ← get with
    | .field name :: rest => do
      set rest
      steps (step (.index (.text none [.chars name]) (← mark? "?"))) fuel
    | .mark "." :: .text parts :: rest => do
      set rest
      let key : Term := .text none (← textParts fuel parts)
      steps (step (.index key (← mark? "?"))) fuel
    | .mark "." :: .mark "[" :: rest => do
      set (Token.mark "[" :: rest)
      steps base fuel
    | .mark "[" :: rest => do
      set rest
      let s ← bracketStep fuel
      let s := if ← mark? "?" then optionalStep s else s
      steps (step s) fuel
    | .mark "?" :: rest => do
      set rest
      steps (.attempt base none) fuel
    | _ => return base

/-- A step in brackets, whose opening bracket is passed. -/
def bracketStep : Nat → Read Step
  | 0 => failure
  | fuel + 1 => do
    if ← mark? "]" then return .iterate false
    if ← mark? ":" then
      let last ← term true fuel
      mark "]"
      return .slice none (some last) false
    let first ← term true fuel
    if ← mark? ":" then
      if ← mark? "]" then return .slice (some first) none false
      let last ← term true fuel
      mark "]"
      return .slice (some first) (some last) false
    mark "]"
    return .index first false

end

/-- Definitions up to the end. -/
def definitions : Nat → Read (List Definition)
  | 0 => failure
  | fuel + 1 => do
    if ← word? "def" then
      let first ← definition fuel
      return first :: (← definitions fuel)
    if (← get).isEmpty then return [] else failure

end Parser

/-- The number of rounds in which all parts of a filter are read: no part is nested deeper than the
filter is long, and a level of nesting takes a few rounds. -/
def parseRounds (source : String) : Nat := 8 * source.length + 16

/-- The term of a filter. -/
def Term.parse? (source : String) : Option Term := do
  let (t, rest) ← (Parser.term true (parseRounds source)).run (← tokenize? source)
  if rest.isEmpty then some t else none

/-- The definitions of a text. -/
def Definition.parseAll? (source : String) : Option (List Definition) := do
  let (ds, _) ← (Parser.definitions (parseRounds source)).run (← tokenize? source)
  return ds

end ShapeSchema.Jq
