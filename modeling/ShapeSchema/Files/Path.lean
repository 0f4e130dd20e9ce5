/-!
# `ShapeSchema.Files.Path`: paths as text

A path is a text of components with slashes between them. Repeated slashes count as one, and a
component `.` counts only at the start.
-/

set_option autoImplicit false

namespace ShapeSchema.Path

/-- The parts of a text between slashes, of which `piece` is the one being read, last character
first. -/
def piecesFrom (piece : List Char) : List Char → List String
  | [] => [String.ofList piece.reverse]
  | '/' :: rest => String.ofList piece.reverse :: piecesFrom [] rest
  | c :: rest => piecesFrom (c :: piece) rest

/-- The parts of a text between slashes. -/
def pieces (path : String) : List String := piecesFrom [] path.toList

/-- The path starts at the root. -/
def isAbsolute (path : String) : Bool := path.toList.head? == some '/'

/-- The components of a path, without the root and without `.`. -/
def components (path : String) : List String :=
  (pieces path).filter fun c => c != "" && c != "."

/-- A path inside a directory. An empty path gives the directory with a slash after it. -/
def join (directory path : String) : String :=
  if isAbsolute path || directory.isEmpty then path
  else if directory.toList.getLast? == some '/' then directory ++ path
  else directory ++ "/" ++ path

/-- The name of the file a path leads to, if it ends in one. -/
def fileName? (path : String) : Option String :=
  match (components path).getLast? with
  | some name => if name == ".." then none else some name
  | none => none

/-- A file name without its extension. A dot at the start makes no extension. -/
def stem (name : String) : String :=
  match name.toList.reverse.dropWhile (· != '.') with
  | [] | [_] => name
  | _ :: rest => String.ofList rest.reverse

/-- The stem of the file a path leads to, empty if it leads to none. -/
def fileStem (path : String) : String := ((fileName? path).map stem).getD ""

/-- The components of the directory around the file a path leads to, each with those before it, and
with the root. -/
def parents (path : String) : List String :=
  let lead := if isAbsolute path then "/" else ""
  let around := (components path).dropLast
  (List.range around.length).map fun n => lead ++ "/".intercalate (around.take (n + 1))

end ShapeSchema.Path
