import ShapeSchema.Files.System

/-!
# `ShapeSchema.Files.Tree`: a tree of files as a value

The files of a tree are listed with their contents, by the components of their paths; the
directories are listed too, because a directory may be empty. Paths are relative to the root of the
tree. A path may lead out of it, but outside there are only directories, and they show nothing of
what is in them.
-/

set_option autoImplicit false

namespace ShapeSchema

/-- The components of a path from the root. -/
abbrev Place := List String

/-- Files with their bytes, and the directories that are there. -/
structure FileTree where
  files : List (Place × ByteArray) := []
  directories : List Place := []

namespace FileTree

/-- The bytes of the file at a place. -/
def content? (t : FileTree) (place : Place) : Option ByteArray := t.files.lookup place

/-- The place is the root or a directory that was made. -/
def isDirectory (t : FileTree) (place : Place) : Bool :=
  place.isEmpty || t.directories.contains place

/-- What is at a place. -/
def kindAt? (t : FileTree) (place : Place) : Option FileKind :=
  if t.isDirectory place then some .directory
  else if (t.content? place).isSome then some .file
  else none

/-- Gives a file a content. -/
def put (t : FileTree) (place : Place) (content : ByteArray) : FileTree :=
  if (t.content? place).isSome then
    { t with files := t.files.map fun f => if f.1 == place then (place, content) else f }
  else { t with files := t.files ++ [(place, content)] }

/-- Adds a directory, with those around it. -/
def addDirectory (t : FileTree) (place : Place) : FileTree :=
  let all := (List.range place.length).map fun n => place.take (n + 1)
  { t with directories := t.directories ++ all.filter fun p => !t.directories.contains p }

/-- Adds a file, with the directories around it. -/
def addFile (t : FileTree) (path : String) (content : ByteArray) : FileTree :=
  let place := Path.components path
  (t.addDirectory place.dropLast).put place content

/-! ### Paths -/

/-- Follows the parts of a path from a place, or from outside of the tree. All places but the last
have to be directories. -/
def follow (t : FileTree) : Option Place → List String → Except FileError (Option Place)
  | place, [] => .ok place
  | none, part :: parts =>
    if part == "" || part == "." || part == ".." then follow t none parts else .error .notFound
  | some place, part :: parts =>
    if t.isDirectory place then
      if part == "" || part == "." then follow t (some place) parts
      else if part == ".." then
        follow t (if place.isEmpty then none else some place.dropLast) parts
      else if 255 < part.utf8ByteSize then .error .nameTooLong
      else follow t (some (place ++ [part])) parts
    else if (t.content? place).isSome then .error .notDirectory
    else .error .notFound

/-- Follows parts from where a path starts. -/
def locateParts (t : FileTree) (path : String) (parts : List String) :
    Except FileError (Option Place) :=
  if path.toList.contains '\x00' then .error .interiorNul
  else if path.isEmpty then .error .notFound
  else t.follow (if Path.isAbsolute path then none else some []) parts

/-- The place that a path leads to, whether or not something is there; none if it is outside. -/
def locate (t : FileTree) (path : String) : Except FileError (Option Place) :=
  t.locateParts path (Path.pieces path)

/-- What a path leads to. -/
def kind? (t : FileTree) (path : String) : Option FileKind :=
  match t.locate path with
  | .ok (some place) => t.kindAt? place
  | .ok none => some .directory
  | .error _ => none

/-- The names in a directory. -/
def entries (t : FileTree) (path : String) : List String :=
  match t.locate path with
  | .ok (some place) =>
    (t.directories ++ t.files.map Prod.fst).filterMap fun p =>
      if p.dropLast == place && !p.isEmpty then p.getLast? else none
  | _ => []

/-- The text of a file, if its bytes are one. -/
def readText (t : FileTree) (path : String) : Except FileError String := do
  match ← t.locate path with
  | none => throw .isDirectory
  | some place =>
    match t.kindAt? place with
    | some .directory => throw .isDirectory
    | none => throw .notFound
    | some .file =>
      match (t.content? place).bind String.fromUTF8? with
      | some text => return text
      | none => throw .notText

/-- Makes a directory where nothing is yet. -/
def makeDirectory (t : FileTree) (path : String) : Except FileError FileTree := do
  match ← t.locate path with
  | none => throw .alreadyExists
  | some place =>
    if (t.kindAt? place).isSome then throw .alreadyExists
    else return { t with directories := t.directories ++ [place] }

/-- A path with a slash at its end stands for a directory, whether or not there is one. -/
def writeText (t : FileTree) (path text : String) : Except FileError FileTree := do
  let parts := ((Path.pieces path).reverse.dropWhile (· == "")).reverse
  match ← t.locateParts path parts with
  | none => throw .isDirectory
  | some place =>
    if t.isDirectory place || path.toList.getLast? == some '/' then throw .isDirectory
    else return t.put place text.toUTF8

/-- Runs an operation that may change the tree. -/
def change (f : FileTree → Except FileError FileTree) : StateM FileTree (Except FileError Unit) :=
  fun t =>
    match f t with
    | .ok t => (.ok (), t)
    | .error e => (.error e, t)

/-- The operations on a tree. -/
def fileSystem : FileSystem (StateM FileTree) where
  kind? path := fun t => (t.kind? path, t)
  entries path := fun t => (t.entries path, t)
  readText path := fun t => (t.readText path, t)
  makeDirectory path := change fun t => t.makeDirectory path
  writeText path text := change fun t => t.writeText path text

end FileTree

end ShapeSchema
