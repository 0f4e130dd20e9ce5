import ShapeSchema.Files.Path

/-!
# `ShapeSchema.Files.System`: what the program does with files

The program is written over these operations, so that it can run on the files of a machine and, for
the theory, on a tree of files that is a value.
-/

set_option autoImplicit false

namespace ShapeSchema

/-- Why an operation on a file has failed. -/
inductive FileError where
  | notFound
  | notDirectory
  | isDirectory
  | alreadyExists
  | nameTooLong
  | interiorNul
  | notText
  | other (text : String)
  deriving DecidableEq, Repr

/-- The text of the error, with the number that the system has for it. -/
def FileError.message : FileError → String
  | .notFound => "No such file or directory (os error 2)"
  | .alreadyExists => "File exists (os error 17)"
  | .notDirectory => "Not a directory (os error 20)"
  | .isDirectory => "Is a directory (os error 21)"
  | .nameTooLong => "File name too long (os error 36)"
  | .interiorNul => "file name contained an unexpected NUL byte"
  | .notText => "stream did not contain valid UTF-8"
  | .other text => text

/-- What can be at a path. -/
inductive FileKind where
  | file
  | directory
  deriving DecidableEq, Repr

/-- The operations on files that a run uses. -/
structure FileSystem (m : Type → Type) where
  /-- What a path leads to, if it leads to anything. -/
  kind? : String → m (Option FileKind)
  /-- The names in a directory, in any order. -/
  entries : String → m (List String)
  /-- The text of a file. -/
  readText : String → m (Except FileError String)
  makeDirectory : String → m (Except FileError Unit)
  /-- Gives a file a text, making the file if there is none. -/
  writeText : String → String → m (Except FileError Unit)

namespace FileSystem

variable {m : Type → Type} [Monad m]

/-- Makes a directory that may be there already. -/
def ensureDirectory (fs : FileSystem m) (path : String) : m (Except FileError Unit) := do
  match ← fs.makeDirectory path with
  | .ok () => return .ok ()
  | .error e => if (← fs.kind? path) = some .directory then return .ok () else return .error e

/-- Makes the directories of a list, each of which is inside the next. Those further out are made
only where the inner one is not found without them. -/
def makeDirectories (fs : FileSystem m) : List String → m (Except FileError Unit)
  | [] => return .ok ()
  | path :: around => do
    match ← fs.ensureDirectory path with
    | .error .notFound =>
      match ← makeDirectories fs around with
      | .ok () => fs.ensureDirectory path
      | .error e => return .error e
    | result => return result

end FileSystem

end ShapeSchema
