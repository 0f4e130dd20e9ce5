import ShapeSchema.OrderedMap
import ShapeSchema.Regex.Scanner

/-!
# `ShapeSchema.Regex.Parser`: patterns into syntax trees

Groups and classes nest, and both are read in a loop over an explicit stack: a `Level` holds the
branch being read and the branches before it, a `Frame` what was open around a group. Each round of
a loop reads a character, so the length of the pattern bounds the rounds.

`parse` ends with the check that nothing is nested too deep.
-/

set_option autoImplicit false

namespace ShapeSchema.Regex

open Scan (fail peek pos atEnd bump skipBlanks bumpAndBlanks bumpIf Primitive)

/-! ### Classes -/

/-- The items of a class so far, last first, and where they start. -/
structure ItemRun where
  start : Nat
  items : List ClassBody := []

/-- A run of items as a class body. -/
def ItemRun.body (r : ItemRun) : ClassBody :=
  match r.items with
  | [] => .empty ⟨r.start, r.start⟩
  | [item] => item
  | last :: items =>
    .union ⟨((items.getLast?).getD last).span.start, last.span.stop⟩ (last :: items).reverse

/-- What is open around the items being read: a bracket, with the run around it, or an operator with
its left side. -/
inductive ClassFrame where
  | bracket (outer : ItemRun) (span : Span) (negated : Bool)
  | operator (op : SetOperator) (left : ClassBody)

/-- The span of the innermost open bracket. -/
def openBracket : List ClassFrame → Span
  | [] => ⟨0, 0⟩
  | .bracket _ span _ :: _ => span
  | .operator _ _ :: rest => openBracket rest

/-- Joins the right side of an operator to its left side, if one is open. -/
def closeOperator (right : ClassBody) : List ClassFrame → ClassBody × List ClassFrame
  | .operator op left :: rest =>
    (.binary ⟨left.span.start, right.span.stop⟩ op left right, rest)
  | stack => (right, stack)

/-- The kind of a name. -/
def asciiKind? (name : String) : Option AsciiKind :=
  match name with
  | "alnum" => some .alnum
  | "alpha" => some .alpha
  | "ascii" => some .ascii
  | "blank" => some .blank
  | "cntrl" => some .cntrl
  | "digit" => some .digit
  | "graph" => some .graph
  | "lower" => some .lower
  | "print" => some .print
  | "punct" => some .punct
  | "space" => some .space
  | "upper" => some .upper
  | "word" => some .word
  | "xdigit" => some .xdigit
  | _ => none

/-- A class such as `[:alpha:]`, if one starts at this bracket. -/
def asciiClass? : Scan (Option ClassBody) := do
  let start ← pos
  match (← get).rest with
  | '[' :: ':' :: rest =>
    let (negated, rest) := match rest with
      | '^' :: rest => (true, rest)
      | _ => (false, rest)
    let name := rest.takeWhile (· != ':')
    match rest.drop name.length, asciiKind? (String.ofList name) with
    | ':' :: ']' :: _, some kind =>
      let length := name.length + 4 + (if negated then 1 else 0)
      Scan.skip length
      return some (.ascii ⟨start, start + length⟩ kind negated)
    | _, _ => return none
  | _ => return none

/-- Hyphens at the start of a class stand for themselves. `fuel` bounds their number. -/
def leadingHyphens (start : Nat) : Nat → Scan (List ClassBody)
  | 0 => return []
  | fuel + 1 => do
    if (← peek) = some '-' then
      let here ← pos
      bumpAndBlanks
      if ← atEnd then fail .classUnclosed start start
      return .literal ⟨⟨here, here + 1⟩, '-', false⟩ :: (← leadingHyphens start fuel)
    else return []

/-- The opening bracket of a class with what belongs to it: a caret, and the hyphens or the closing
bracket that stand for themselves there. -/
def openClass : Scan (Span × Bool × ItemRun) := do
  let start ← pos
  bumpAndBlanks
  if ← atEnd then fail .classUnclosed start (← pos)
  let negated := (← peek) = some '^'
  if negated then
    bumpAndBlanks
    if ← atEnd then fail .classUnclosed start (← pos)
  let runStart ← pos
  let hyphens ← leadingHyphens start (← get).rest.length
  let mut items := hyphens.reverse
  if items.isEmpty && (← peek) = some ']' then
    let here ← pos
    items := [.literal ⟨⟨here, here + 1⟩, ']', false⟩]
    bumpAndBlanks
    if ← atEnd then fail .classUnclosed start (← pos)
  return (⟨start, ← pos⟩, negated, ⟨runStart, items⟩)

/-- A character or an escape inside a class. -/
def classPrimitive : Scan Primitive := do
  let here ← pos
  match ← peek with
  | some '\\' => Scan.escape
  | some c =>
    bump
    return .literal ⟨⟨here, here + 1⟩, c, false⟩
  | none => fail .classUnclosed here here

/-- An escape that stands alone inside a class. -/
def primitiveItem (p : Primitive) : Scan ClassBody :=
  match p with
  | .literal l => return .literal l
  | .property c => return .property c
  | .shorthand c => return .shorthand c
  | .assertion s _ | .dot s => fail .classEscapeInvalid s.start s.stop

/-- An end of a range. -/
def rangeEnd (p : Primitive) : Scan Literal :=
  match p with
  | .literal l => return l
  | other => fail .classRangeLiteral other.span.start other.span.stop

/-- An item of a class: a range, or a single character or escape. A hyphen before the closing
bracket or before another hyphen makes no range. -/
def classItem (bracket : Span) : Scan ClassBody := do
  let first ← classPrimitive
  skipBlanks
  if ← atEnd then fail .classUnclosed bracket.start bracket.stop
  let after ← Scan.peekPastBlanks
  if (← peek) ≠ some '-' || after = some ']' || after = some '-' then primitiveItem first
  else
    bumpAndBlanks
    if ← atEnd then fail .classUnclosed bracket.start bracket.stop
    let last ← classPrimitive
    let span : Span := ⟨first.span.start, last.span.stop⟩
    let first ← rangeEnd first
    let last ← rangeEnd last
    if last.char < first.char then fail .classRangeInvalid span.start span.stop
    return .range span first last

/-- An operator between two parts of a class, if one comes next. -/
def setOperator? : Scan (Option SetOperator) := do
  if ← bumpIf ['&', '&'] then return some .intersection
  else if ← bumpIf ['-', '-'] then return some .difference
  else if ← bumpIf ['~', '~'] then return some .symmetricDifference
  else return none

/-- The rest of a class, given what is open. -/
def classLoop : Nat → List ClassFrame → ItemRun → Scan Ast
  | 0, stack, _ => fail .classUnclosed (openBracket stack).start (openBracket stack).stop
  | fuel + 1, stack, run => do
    skipBlanks
    let here ← pos
    match ← peek with
    | none => fail .classUnclosed (openBracket stack).start (openBracket stack).stop
    | some '[' =>
      match ← asciiClass? with
      | some item => classLoop fuel stack { run with items := item :: run.items }
      | none =>
        let (span, negated, inner) ← openClass
        classLoop fuel (.bracket run span negated :: stack) inner
    -- The bracket also ends a set operator that is open inside it.
    | some ']' =>
      let (body, stack) := closeOperator run.body stack
      bump
      match stack with
      | .bracket outer span negated :: rest =>
        let span : Span := ⟨span.start, here + 1⟩
        if rest.isEmpty then return .bracketed span negated body
        else classLoop fuel rest { outer with items := .bracketed span negated body :: outer.items }
      | stack => fail .classUnclosed (openBracket stack).start (openBracket stack).stop
    | some _ =>
      match ← setOperator? with
      | some op =>
        let (left, stack) := closeOperator run.body stack
        classLoop fuel (.operator op left :: stack) ⟨← pos, []⟩
      | none =>
        let item ← classItem (openBracket stack)
        classLoop fuel stack { run with items := item :: run.items }

/-- A bracketed class, whose opening bracket comes next. -/
def classAst : Scan Ast := do
  let fuel := (← get).rest.length + 1
  let (span, negated, run) ← openClass
  classLoop fuel [.bracket ⟨span.start, []⟩ span negated] run

/-! ### Flags and groups -/

/-- The flag of a letter. -/
def flagOf? (c : Char) : Option Flag :=
  match c with
  | 'i' => some .caseInsensitive
  | 'm' => some .multiLine
  | 's' => some .dotMatchesNewLine
  | 'U' => some .swapGreed
  | 'u' => some .unicode
  | 'R' => some .crlf
  | 'x' => some .ignoreWhitespace
  | _ => none

/-- Flags read so far. The hyphen switches off the ones after it. -/
structure FlagRun where
  seen : List (Flag × Nat) := []
  change : FlagChange := {}
  negation : Option Nat := none
  /-- The hyphen was read last. -/
  dangling : Bool := false

/-- Flags up to a colon or a closing parenthesis, which comes next then. -/
def flagLoop : Nat → FlagRun → Scan FlagRun
  | 0, run => return run
  | fuel + 1, run => do
    let here ← pos
    match ← peek with
    | none => fail .flagUnexpectedEof here here
    | some c =>
      -- The last flag may not be a hyphen.
      if c = ':' || c = ')' then
        match run.dangling, run.negation with
        | true, some at' => fail .flagDanglingNegation at' (at' + 1)
        | _, _ => return run
      else if c = '-' then
        match run.negation with
        | some first =>
          throw ⟨.flagRepeatedNegation, ⟨here, here + 1⟩, some ⟨first, first + 1⟩⟩
        | none =>
          bump
          flagLoop fuel { run with negation := some here, dangling := true }
      else
        match flagOf? c with
        | none => fail .flagUnrecognized here (here + 1)
        | some flag =>
          match run.seen.find? fun s => s.1 == flag with
          | some (_, first) =>
            throw ⟨.flagDuplicate, ⟨here, here + 1⟩, some ⟨first, first + 1⟩⟩
          | none =>
            bump
            let change :=
              if run.negation.isNone then { run.change with on := run.change.on ++ [flag] }
              else { run.change with off := run.change.off ++ [flag] }
            flagLoop fuel { run with seen := (flag, here) :: run.seen, change, dangling := false }

/-- A character that may stand in the name of a group. -/
def isNameChar (isFirst : Bool) (c : Char) : Bool :=
  let alphabetic := Unicode.alphabetic.contains c.toNat
  if isFirst then c = '_' || alphabetic
  else ['_', '.', '[', ']'].contains c || alphabetic || Unicode.numeric.contains c.toNat

/-- The characters of a group's name up to the closing bracket. -/
def nameChars (start : Nat) : Nat → Scan (List Char)
  | 0 => return []
  | fuel + 1 => do
    let here ← pos
    match ← peek with
    | none => fail .groupNameUnexpectedEof here here
    | some '>' => return []
    | some c =>
      if isNameChar (here == start) c then
        bump
        return c :: (← nameChars start fuel)
      else fail .groupNameInvalid here (here + 1)

/-- The name of a group, which may not have been used before. -/
def groupName : Scan Unit := do
  let start ← pos
  let name ← nameChars start ((← get).rest.length + 1)
  let stop ← pos
  bump
  if name.isEmpty then fail .groupNameEmpty start start
  let name := String.ofList name
  match List.lookup name (← get).names with
  | some first => throw ⟨.groupNameDuplicate, ⟨start, stop⟩, some first⟩
  | none => modify fun s => { s with names := (name, ⟨start, stop⟩) :: s.names }

/-- What an opening parenthesis starts: a change of flags, or a group. -/
inductive Opening where
  | flags (span : Span) (change : FlagChange)
  | group (kind : GroupKind)

/-- The opening of a group, whose parenthesis comes next. -/
def opening : Scan Opening := do
  let start ← pos
  bump
  skipBlanks
  let inner ← pos
  for text in [['?', '='], ['?', '!'], ['?', '<', '='], ['?', '<', '!']] do
    if ← bumpIf text then fail .lookAround start (← pos)
  if (← bumpIf ['?', 'P', '<']) || (← bumpIf ['?', '<']) then
    groupName
    return .group .capture
  else if ← bumpIf ['?'] then
    if ← atEnd then fail .groupUnclosed start (start + 1)
    let run ← flagLoop ((← get).rest.length + 1) {}
    let last ← peek
    bump
    if last = some ')' then
      if run.seen.isEmpty then fail .repetitionMissing inner inner
      return .flags ⟨start, ← pos⟩ run.change
    else return .group (.nonCapturing run.change)
  else return .group .capture

/-! ### Repetition -/

/-- The lower and the upper bound of a count in braces, whose opening brace is at `start`. -/
def countBounds (start : Nat) : Scan (Nat × Option Nat) := do
  bumpAndBlanks
  if ← atEnd then fail .repetitionCountUnclosed start (← pos)
  let low ← Scan.count
  if ← atEnd then fail .repetitionCountUnclosed start (← pos)
  let bounds : Nat × Option Nat ←
    if (← peek) = some ',' then
      bumpAndBlanks
      if ← atEnd then fail .repetitionCountUnclosed start (← pos)
      if (← peek) ≠ some '}' then
        let low ← low
        let high ← (← Scan.count)
        pure (low, some high)
      else pure (← low, none)
    else
      let n ← low
      pure (n, some n)
  if (← peek) ≠ some '}' then fail .repetitionCountUnclosed start (← pos)
  return bounds

/-- The bounds of a repetition operator, which comes next. The mark of the lazy form is passed. -/
def repetitionBounds (c : Char) : Scan (Nat × Option Nat) := do
  let start ← pos
  let bounds : Nat × Option Nat ←
    match c with
    | '?' => pure (0, some 1)
    | '*' => pure (0, none)
    | '+' => pure (1, none)
    | _ => countBounds start
  if c = '{' then bumpAndBlanks else bump
  if (← peek) = some '?' then bump
  match bounds with
  | (low, some high) =>
    if high < low then fail .repetitionCountInvalid start (← pos) else return bounds
  | _ => return bounds

/-! ### The pattern -/

/-- The branch being read, its parts last first, and the branches before it, last first. -/
structure Level where
  start : Nat
  parts : List Ast := []
  branches : Option (Nat × List Ast) := none

/-- What is open around a group. -/
structure Frame where
  outer : Level
  span : Span
  kind : GroupKind
  ignoreBlanks : Bool

/-- Parts in a row; `stop` is where they end. -/
def Level.branch (l : Level) (stop : Nat) : Ast :=
  match l.parts with
  | [] => .empty ⟨l.start, stop⟩
  | [part] => part
  | parts => .concat ⟨l.start, stop⟩ parts.reverse

/-- All branches of a level; `stop` is where they end. -/
def Level.close (l : Level) (stop : Nat) : Ast :=
  match l.branches with
  | none => l.branch stop
  | some (start, branches) => .alternation ⟨start, stop⟩ (l.branch stop :: branches).reverse

/-- The level after a bar. -/
def Level.next (l : Level) (bar : Nat) : Level :=
  let (start, branches) := l.branches.getD (l.start, [])
  ⟨bar + 1, [], some (start, l.branch bar :: branches)⟩

/-- Reads on to the end of the pattern. The groups that are open wait on the stack. -/
def patternLoop : Nat → List Frame → Level → Scan Ast
  | 0, _, level => return level.close (← pos)
  | fuel + 1, stack, level => do
    skipBlanks
    let here ← pos
    match ← peek with
    | none =>
      -- What is left open at the end is reported at the innermost group.
      match stack with
      | [] => return level.close here
      | frame :: _ => fail .groupUnclosed frame.span.start frame.span.stop
    | some '(' =>
      match ← opening with
      -- Flags without a group hold up to the end of the group around them.
      | .flags span change =>
        match change.state? .ignoreWhitespace with
        | some v => modify fun s => { s with ignoreBlanks := v }
        | none => pure ()
        patternLoop fuel stack { level with parts := .flags span change :: level.parts }
      | .group kind =>
        let old := (← get).ignoreBlanks
        let new := match kind with
          | .capture => old
          | .nonCapturing change => (change.state? .ignoreWhitespace).getD old
        modify fun s => { s with ignoreBlanks := new }
        patternLoop fuel (⟨level, ⟨here, here + 1⟩, kind, old⟩ :: stack) ⟨← pos, [], none⟩
    | some ')' =>
      match stack with
      | [] => fail .groupUnopened here (here + 1)
      | frame :: stack =>
        modify fun s => { s with ignoreBlanks := frame.ignoreBlanks }
        bump
        let group := Ast.group ⟨frame.span.start, here + 1⟩ frame.kind (level.close here)
        patternLoop fuel stack { frame.outer with parts := group :: frame.outer.parts }
    | some '|' =>
      bump
      patternLoop fuel stack (level.next here)
    | some '[' =>
      let item ← classAst
      patternLoop fuel stack { level with parts := item :: level.parts }
    | some c =>
      if c = '?' || c = '*' || c = '+' || c = '{' then
        match level.parts with
        -- There is nothing to repeat, and flags cannot be repeated.
        | [] | .flags _ _ :: _ => fail .repetitionMissing here here
        | part :: parts =>
          let (low, high) ← repetitionBounds c
          let item := Ast.repetition ⟨part.span.start, ← pos⟩ low high part
          patternLoop fuel stack { level with parts := item :: parts }
      else
        let item ←
          if c = '\\' then Primitive.ast <$> Scan.escape
          else do
            bump
            let span : Span := ⟨here, here + 1⟩
            pure (match c with
              | '.' => .dot span
              | '^' => .assertion span .startLine
              | '$' => .assertion span .endLine
              | c => .literal ⟨span, c, false⟩)
        patternLoop fuel stack { level with parts := item :: level.parts }

/-! ### Nesting -/

/-- How deep a pattern may nest. -/
def nestLimit : Nat := 250

/-- One level further down, unless the limit is reached there. -/
def descend (depth : Nat) (span : Span) : Except SyntaxError Nat :=
  if depth < nestLimit then .ok (depth + 1) else .error ⟨.nestLimit nestLimit, span, none⟩

mutual

/-- Checks how deep a class is nested. -/
def checkBody (depth : Nat) : ClassBody → Except SyntaxError Unit
  | .bracketed span _ body => do checkBody (← descend depth span) body
  | .union span items => do checkBodies (← descend depth span) items
  | .binary span _ left right => do
    let depth ← descend depth span
    checkBody depth left
    checkBody depth right
  | .empty _ | .literal _ | .range _ _ _ | .ascii _ _ _ | .property _ | .shorthand _ => .ok ()

/-- Checks how deep the items of a class are nested. -/
def checkBodies (depth : Nat) : List ClassBody → Except SyntaxError Unit
  | [] => .ok ()
  | item :: items => do
    checkBody depth item
    checkBodies depth items

end

mutual

/-- Nothing is nested beyond the limit, `depth` levels being open. -/
def checkNesting (depth : Nat) : Ast → Except SyntaxError Unit
  | .bracketed span _ body => do checkBody (← descend depth span) body
  | .repetition span _ _ body => do checkNesting (← descend depth span) body
  | .group span _ body => do checkNesting (← descend depth span) body
  | .alternation span branches => do checkAll (← descend depth span) branches
  | .concat span parts => do checkAll (← descend depth span) parts
  | .empty _ | .flags _ _ | .literal _ | .dot _ | .assertion _ _ | .property _ | .shorthand _ =>
    .ok ()

/-- Checks how deep some expressions are nested. -/
def checkAll (depth : Nat) : List Ast → Except SyntaxError Unit
  | [] => .ok ()
  | item :: items => do
    checkNesting depth item
    checkAll depth items

end

/-- The syntax tree of a pattern. -/
def parse (pattern : String) : Except SyntaxError Ast := do
  let chars := pattern.toList
  let (ast, _) ← (patternLoop (chars.length + 1) [] ⟨0, [], none⟩).run { rest := chars }
  checkNesting 0 ast
  return ast

end ShapeSchema.Regex
