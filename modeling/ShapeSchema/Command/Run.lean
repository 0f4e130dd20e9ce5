import ShapeSchema.Command.Arguments
import ShapeSchema.Files.Glob
import ShapeSchema.Jq.Filter
import ShapeSchema.Schema.Tool
import ShapeSchema.Schema.Violation

/-!
# `ShapeSchema.Command.Run`: running a command

A run reads files, adds to what is printed, and may end in a failure; what was printed before the
failure stays. All models are loaded and compiled before anything is printed or written, so a
schema or tools run that fails leaves no output behind.
-/

set_option autoImplicit false

namespace ShapeSchema

/-- Why a run ends early. -/
inductive Failure where
  | badPattern (e : Glob.Error)
  | noMatch (pattern : String)
  | unreadable (path : String) (e : FileError)
  | notJson (path text : String) (e : Json.SyntaxError)
  | nothingAtPointer (path pointer : String)
  | filter (path : String) (e : Jq.Error)
  | notCompiled (label : String) (e : ModelError)
  | unknownShape (label id : String)
  | failedDocuments (count : Nat)
  | noDirectory (e : FileError)
  | unwritable (path : String) (e : FileError)

/-- The line that a failure is reported with. -/
def Failure.message : Failure → String
  | .badPattern e => e.message
  | .noMatch pattern => s!"glob pattern matched no files: {pattern}"
  | .unreadable path e => s!"Failed to read source file ({path}): {e.message}"
  | .notJson path text e => s!"Failed to parse JSON source file ({path}): {e.message text}"
  | .nothingAtPointer path pointer => s!"{path}: nothing at JSON pointer {pointer}"
  | .filter path _ => s!"Failed to apply jq expression to source file ({path})"
  | .notCompiled label e => s!"Failed to compile {label}: {e.message}"
  | .unknownShape label id => s!"{label}: shape not found: {id}"
  | .failedDocuments count => s!"{count} document(s) failed validation"
  | .noDirectory e => e.message
  | .unwritable path e => s!"Failed to write {path}: {e.message}"

/-- What a run has printed. -/
structure Printed where
  output : String := ""
  warnings : String := ""

/-- A run over the file operations of `m`. -/
abbrev Run (m : Type → Type) := ExceptT Failure (StateT Printed m)

/-- A compiled model and where it came from. -/
structure Loaded where
  label : String
  stem : String
  model : CompiledModel

namespace Run

variable {m : Type → Type} [Monad m]

/-- An operation on files. -/
def access {α : Type} (operation : m α) : Run m α := ExceptT.lift (StateT.lift operation)

/-- Prints a line. -/
def printLine (line : String) : Run m Unit :=
  modify fun p => { p with output := p.output ++ line ++ "\n" }

/-- Prints a warning line. -/
def warnLine (line : String) : Run m Unit :=
  modify fun p => { p with warnings := p.warnings ++ line ++ "\n" }

/-- A pattern with a wildcard; other paths are taken as they are. -/
def hasWildcard (pattern : String) : Bool :=
  pattern.toList.any fun c => c = '*' || c = '?' || c = '['

/-- The paths of a pattern. -/
def pathsOf (fs : FileSystem m) (pattern : String) : Run m (List String) := do
  if hasWildcard pattern then
    match ← access (Glob.find fs pattern) with
    | .error e => throw (.badPattern e)
    | .ok [] => throw (.noMatch pattern)
    | .ok paths => return paths
  else return [pattern]

/-- The paths of patterns, in order. -/
def resolvePaths (fs : FileSystem m) (patterns : List String) : Run m (List String) := do
  return (← patterns.mapM (pathsOf fs)).flatten

/-- Reads a file and the JSON value in it. -/
def readJson (fs : FileSystem m) (path : String) : Run m Json := do
  match ← access (fs.readText path) with
  | .error e => throw (.unreadable path e)
  | .ok text =>
    match Json.ofText text with
    | .ok value => return value
    | .error e => throw (.notJson path text e)

/-- The part of a document at a pointer. -/
def atPointer (path : String) (document : Json) (pointer : Option String) : Except Failure Json :=
  match pointer with
  | none => .ok document
  | some p =>
    match (Json.Pointer.parse? p).bind (·.resolve? document) with
    | some part => .ok part
    | none => .error (.nothingAtPointer path p)

/-- The documents that a filter makes of one. -/
def filtered (path : String) (document : Json) (filter : Option String) :
    Except Failure (List Json) :=
  match filter with
  | none => .ok [document]
  | some f => (Jq.apply f document).mapError (.filter path)

/-- The label of a document: its path, with its position if the path gave several. -/
def labelOf (path : String) (several : Bool) (position : Nat) : String :=
  if several then s!"{path}[{position}]" else path

/-- Compiles the documents of a path, from a position on, and warns of what was dropped. -/
def compileAll (path : String) (several : Bool) (position : Nat) :
    List Json → Run m (List Loaded)
  | [] => return []
  | document :: rest => do
    let label := labelOf path several position
    match CompiledModel.ofJson document with
    | .error e => throw (.notCompiled label e)
    | .ok model =>
      for d in model.diagnostics do
        warnLine s!"warning: {label}: {d.shape}: {d.message}"
      let others ← compileAll path several (position + 1) rest
      return ⟨label, Path.fileStem path, model⟩ :: others

/-- The models of a path. -/
def loadPath (fs : FileSystem m) (inputs : Inputs) (path : String) : Run m (List Loaded) := do
  let document ← readJson fs path
  let part ← liftExcept (atPointer path document inputs.pointer)
  let documents ← liftExcept (filtered path part inputs.filter)
  compileAll path (decide (1 < documents.length)) 0 documents
where
  liftExcept {α : Type} (r : Except Failure α) : Run m α :=
    match r with
    | .ok a => return a
    | .error e => throw e

/-- The models of all inputs, in order. -/
def loadModels (fs : FileSystem m) (inputs : Inputs) : Run m (List Loaded) := do
  let paths ← resolvePaths fs inputs.patterns
  return (← paths.mapM (loadPath fs inputs)).flatten

/-- Writes a value to a file, or prints it. -/
def emit (fs : FileSystem m) (out : Option String) (value : Json) : Run m Unit := do
  match out with
  | none => printLine value.pretty
  | some path =>
    match ← access (fs.makeDirectories (Path.parents path).reverse) with
    | .error e => throw (.noDirectory e)
    | .ok () =>
      match ← access (fs.writeText path value.pretty) with
      | .error e => throw (.unwritable path e)
      | .ok () => return ()

/-- A single schema stands alone; several are keyed by their labels. -/
def collate (schemas : List (String × Json)) : Json :=
  match schemas with
  | [(_, schema)] => schema
  | schemas => .object (Entries.collect schemas)

/-- The schema of a model, for one shape or for all. -/
def schemaOf (shape : Option String) (l : Loaded) : Except Failure (String × Json) :=
  match shape with
  | none => .ok (l.label, l.model.wholeSchema)
  | some id =>
    match l.model.get? id with
    | some root => .ok (l.label, l.model.standalone root)
    | none => .error (.unknownShape l.label id)

/-- The node that documents are checked against: that of the shape, or that of the request of the
operation. -/
def rootOf (shape : String) (l : Loaded) : Except Failure Ref :=
  match (l.model.get? shape).or (l.model.requestSchema? shape) with
  | some root => .ok root
  | none => .error (.unknownShape l.label shape)

/-- Checks a document and prints the verdict. -/
def checkDocument (fs : FileSystem m) (model : CompiledModel) (root : Ref) (path : String) :
    Run m Bool := do
  let violations := model.violations root (← readJson fs path)
  if violations.isEmpty then
    printLine s!"✅ {path}"
    return true
  else
    printLine s!"❌ {path}"
    for v in violations do
      printLine s!"    {v.display}"
    return false

/-- Checks documents against a model: which of them pass. -/
def checkDocuments (fs : FileSystem m) (shape : String) (data : List String) (l : Loaded) :
    Run m (List Bool) := do
  match rootOf shape l with
  | .error e => throw e
  | .ok root =>
    data.mapM (checkDocument fs l.model root)

end Run

open Run in
/-- Runs a command. -/
def Command.run {m : Type → Type} [Monad m] (fs : FileSystem m) (c : Command) : Run m Unit := do
  match c with
  | .schema inputs shape out =>
    let loaded ← loadModels fs inputs
    match loaded.mapM (schemaOf shape) with
    | .error e => throw e
    | .ok schemas => emit fs out (collate schemas)
  | .tools inputs lead out =>
    let loaded ← loadModels fs inputs
    let tools := loaded.flatMap fun l => l.model.tools (lead.getD l.stem)
    emit fs out (.array (tools.map Tool.json))
  | .validate inputs shape data =>
    let loaded ← loadModels fs inputs
    let paths ← resolvePaths fs data
    let verdicts := (← loaded.mapM (checkDocuments fs shape paths)).flatten
    if verdicts.all id then return () else throw (.failedDocuments (verdicts.count false))

/-- How a run ends: what it printed, and its failure if there is one. -/
structure Outcome where
  output : String
  warnings : String
  failure : Option Failure

/-- Runs a command from its start. -/
def Command.outcome {m : Type → Type} [Monad m] (fs : FileSystem m) (c : Command) : m Outcome := do
  let (result, printed) ← ((c.run fs).run).run {}
  let failure := match result with
    | .ok () => none
    | .error e => some e
  return ⟨printed.output, printed.warnings, failure⟩

end ShapeSchema
