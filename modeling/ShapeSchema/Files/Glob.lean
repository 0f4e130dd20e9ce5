import ShapeSchema.Files.System

/-!
# `ShapeSchema.Files.Glob`: paths by pattern

In a pattern `?` stands for any character, `*` for any characters, a class in brackets for one of
its characters or, with `!`, for one of all others, and `**`, as a whole component, for directories
at any depth. A pattern is matched component by component, and the paths come in the order of their
names.
-/

set_option autoImplicit false

namespace ShapeSchema.Glob

/-- What is wrong with a pattern. -/
inductive ErrorKind where
  | wildcards
  | recursiveWildcards
  | range
  deriving DecidableEq, Repr

/-- What is wrong with a pattern, and near which character. -/
structure Error where
  kind : ErrorKind
  position : Nat
  deriving DecidableEq, Repr

/-- The text of an error, with its position in the pattern. -/
def Error.message (e : Error) : String :=
  let text := match e.kind with
    | .wildcards => "wildcards are either regular `*` or recursive `**`"
    | .recursiveWildcards => "recursive wildcards must form a single path component"
    | .range => "invalid range pattern"
  s!"Pattern syntax error near position {e.position}: {text}"

/-- What a pattern is made of. -/
inductive Token where
  | char (c : Char)
  | anyChar
  | anyChars
  /-- `**`. -/
  | anyDirectories
  /-- One of the characters of the ranges. -/
  | within (ranges : List (Char × Char))
  | except (ranges : List (Char × Char))
  deriving DecidableEq, Repr

/-! ### Patterns -/

/-- The ranges of a class. -/
def classRanges : List Char → List (Char × Char)
  | a :: '-' :: b :: rest => (a, b) :: classRanges rest
  | a :: rest => (a, a) :: classRanges rest
  | [] => []

/-- A class and what follows it. The first character of a class is never its end. -/
def classBody? : List Char → Option (List (Char × Char) × List Char)
  | first :: rest =>
    match rest.dropWhile (· != ']') with
    | ']' :: after => some (classRanges (first :: rest.takeWhile (· != ']')), after)
    | _ => none
  | [] => none

/-- The token of a class, whose bracket is passed, and what follows it. -/
def classToken? : List Char → Option (Token × List Char)
  | '!' :: rest => (classBody? rest).map fun (ranges, after) => (.except ranges, after)
  | rest => (classBody? rest).map fun (ranges, after) => (.within ranges, after)

/-- The tokens of a pattern from a position on; `before` is the character before it. `fuel` bounds
their number. -/
def tokens : Nat → Nat → Option Char → List Char → Except Error (List Token)
  | 0, _, _, _ => .ok []
  | _ + 1, _, _, [] => .ok []
  | fuel + 1, position, before, c :: rest =>
    match c with
    | '?' => do return .anyChar :: (← tokens fuel (position + 1) (some c) rest)
    | '*' =>
      let count := 1 + (rest.takeWhile (· == '*')).length
      let after := rest.dropWhile (· == '*')
      if 2 < count then .error ⟨.wildcards, position + 2⟩
      -- Two stars stand for directories only as a whole component.
      else if count = 2 then
        if before.any (· != '/') then .error ⟨.recursiveWildcards, position - 1⟩
        else
          match after with
          | [] => .ok [.anyDirectories]
          | '/' :: after => do
            return .anyDirectories :: (← tokens fuel (position + 3) (some '/') after)
          | _ => .error ⟨.recursiveWildcards, position + 2⟩
      else do return .anyChars :: (← tokens fuel (position + 1) (some c) after)
    | '[' =>
      match classToken? rest with
      | some (token, after) => do
        let length := rest.length - after.length
        return token :: (← tokens fuel (position + 1 + length) (some ']') after)
      | none => .error ⟨.range, position⟩
    | c => do return .char c :: (← tokens fuel (position + 1) (some c) rest)

/-- The tokens of a whole pattern. -/
def parse (pattern : String) : Except Error (List Token) :=
  tokens (pattern.length + 1) 0 none pattern.toList

/-- The character is in one of the ranges. -/
def inRanges (ranges : List (Char × Char)) (c : Char) : Bool :=
  ranges.any fun r => r.1 ≤ c && c ≤ r.2

/-- A name matches tokens. -/
def isMatch : List Token → List Char → Bool
  | [], s => s.isEmpty
  | .anyChars :: ts, s | .anyDirectories :: ts, s =>
    isMatch ts s || match s with
      | [] => false
      | _ :: rest => isMatch (.anyChars :: ts) rest
  | _ :: _, [] => false
  | .char d :: ts, c :: rest => c == d && isMatch ts rest
  | .anyChar :: ts, _ :: rest => isMatch ts rest
  | .within ranges :: ts, c :: rest => inRanges ranges c && isMatch ts rest
  | .except ranges :: ts, c :: rest => !inRanges ranges c && isMatch ts rest
termination_by ts s => (s.length, ts.length)

/-- The text of tokens that hold no wildcards. -/
def literal? (tokens : List Token) : Option String :=
  let chars : Option (List Char) := tokens.mapM fun (t : Token) => match t with
    | .char c => some c
    | _ => none
  chars.map String.ofList

/-- The component stands for any number of directories. -/
def isRecursive (tokens : List Token) : Bool := tokens.contains .anyDirectories

/-! ### Search -/

/-- A path met in a search and the patterns for its components from its own on; none are left where
the path is known to match. -/
structure Candidate where
  path : String
  patterns : List (List Token)

variable {m : Type → Type} [Monad m]

/-- A name inside a directory; the directory `.` is not written. -/
def inside (directory name : String) : String :=
  if directory == "." then name else Path.join directory name

/-- The candidates inside a directory for patterns. A component without wildcards is looked up at
once. Where a pattern starts with a dot it may also match the directory itself and the one around
it. -/
def candidates (fs : FileSystem m) (directory : String) : List (List Token) → m (List Candidate)
  | [] => return []
  | tokens :: patterns => do
    let descend (path : String) : m (List Candidate) :=
      if patterns.isEmpty then return [⟨path, []⟩] else candidates fs path patterns
    let isDirectory := (← fs.kind? directory) = some .directory
    match literal? tokens with
    | some name =>
      let path := inside directory name
      let isThere : Bool ←
        if name == "." || name == ".." then pure isDirectory
        else pure (← fs.kind? path).isSome
      if isThere then descend path else return []
    | none =>
      if isDirectory then
        let names := (← fs.entries directory).mergeSort fun a b => a ≤ b
        let special ←
          if tokens.head? == some (.char '.') then
            [".", ".."].foldlM (fun found name => do
              if isMatch tokens name.toList then
                return (← descend (Path.join directory name)) ++ found
              else return found) []
          else pure []
        return special ++ names.map fun name => ⟨inside directory name, tokens :: patterns⟩
      else return []

/-- The paths that a candidate leads to, in order. `fuel` bounds the depth of the search. -/
def visit (fs : FileSystem m) (directoriesOnly : Bool) : Nat → Candidate → m (List String)
  | 0, _ => return []
  | fuel + 1, ⟨path, patterns⟩ => do
    let isDirectory := (← fs.kind? path) = some .directory
    let allowed : List String := if directoriesOnly && !isDirectory then [] else [path]
    let visitAll (cs : List Candidate) : m (List String) :=
      return (← cs.mapM (visit fs directoriesOnly fuel)).flatten
    -- The path against patterns for its own component and those after it.
    let visitHere (patterns : List (List Token)) : m (List String) := do
      match patterns, Path.fileName? path with
      | tokens :: rest, some name =>
        if !isMatch tokens name.toList then return []
        else if rest.isEmpty then return allowed
        else visitAll (← candidates fs path rest)
      | _, _ => return []
    match patterns with
    | [] => return allowed
    | tokens :: rest =>
      if isRecursive tokens then
        let rest := rest.dropWhile isRecursive
        let here ←
          if rest.isEmpty then pure (if isDirectory then [path] else []) else visitHere rest
        let below ←
          if isDirectory then visitAll (← candidates fs path (tokens :: rest)) else pure []
        return here ++ below
      else visitHere patterns

/-- No path has more bytes than this, so none has more components. -/
def pathLimit : Nat := 4096

/-- The components of a pattern. A slash at the end makes no component. -/
def componentsOf (pattern : String) : List String :=
  let parts := Path.pieces pattern
  if parts.getLast? == some "" then parts.dropLast else parts

/-- The paths that match a pattern. -/
def find (fs : FileSystem m) (pattern : String) : m (Except Error (List String)) := do
  let relative := String.ofList (pattern.toList.dropWhile (· == '/'))
  let patterns : Except Error (List (List Token)) := do
    let _ ← parse pattern
    (componentsOf relative).mapM parse
  match patterns with
  | .error e => return .error e
  | .ok patterns => do
    let start := if Path.isAbsolute pattern then "/" else "."
    let directoriesOnly := pattern.toList.getLast? == some '/'
    let found ← candidates fs start patterns
    let paths ← found.mapM (visit fs directoriesOnly (pathLimit * (patterns.length + 1)))
    return .ok paths.flatten

end ShapeSchema.Glob
