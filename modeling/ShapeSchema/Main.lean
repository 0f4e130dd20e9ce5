import ShapeSchema.Command.Run

/-!
# `ShapeSchema.Main`: the program

The operations on files are those of the machine; everything else is `Command.run`.
-/

set_option autoImplicit false

namespace ShapeSchema

/-- The error of a file operation on the machine. -/
def FileError.ofIO (e : IO.Error) : FileError :=
  match e with
  | .noFileOrDirectory _ _ _ => .notFound
  | .alreadyExists _ _ _ => .alreadyExists
  | .inappropriateType _ code _ => if code = 20 then .notDirectory else .isDirectory
  | .invalidArgument _ code text =>
    if code = 36 then .nameTooLong else if code = 22 then .interiorNul else .other text
  | e => .other (toString e)

/-- Runs an operation and keeps its error as a value. -/
def guarded {α : Type} (operation : IO α) : IO (Except FileError α) := do
  try
    return .ok (← operation)
  catch e => return .error (.ofIO e)

/-- The files of the machine. -/
def machineFiles : FileSystem IO where
  kind? path := do
    match ← guarded (do return (← (← IO.FS.realPath path).metadata).type) with
    | .ok .dir => return some .directory
    | .ok _ => return some .file
    | .error _ => return none
  entries path := do
    match ← guarded (do return ← (← IO.FS.realPath path).readDir) with
    | .ok found => return found.toList.map fun e => e.fileName
    | .error _ => return []
  readText path := do
    match ← guarded (IO.FS.readBinFile path) with
    | .error e => return .error e
    | .ok bytes =>
      match String.fromUTF8? bytes with
      | some text => return .ok text
      | none => return .error .notText
  makeDirectory path := guarded (IO.FS.createDir path)
  writeText path text := guarded (IO.FS.writeFile path text)

/-- What is printed when the arguments ask for help, or ask for nothing that there is. -/
def usage : String :=
  "\n".intercalate
    ["Usage: shapegen <COMMAND>", "", "Commands:",
     "  schema    compile and print JSON Schema for one shape or the whole model",
     "  tools     compile and print one tool descriptor per operation",
     "  validate  validate JSON documents against a compiled shape", "",
     "Options of all commands:",
     "      --json-pointer <POINTER>  the model's place inside each input",
     "      --jq-expr <FILTER>        filter for each input; every output is a model",
     "  -i, --input <FILE>...         model files or quoted glob patterns", "",
     "Options of schema:",
     "      --shape <ID>              root shape (the whole model if omitted)",
     "  -o, --out <FILE>              output file (standard output if omitted)", "",
     "Options of tools:",
     "      --prefix <TEXT>           start of tool names (each input's stem if omitted)",
     "  -o, --out <FILE>              output file (standard output if omitted)", "",
     "Options of validate:",
     "      --shape <ID>              shape, or operation whose request is meant",
     "      --data <FILE>...          documents or quoted glob patterns"]

end ShapeSchema

open ShapeSchema in
/-- Runs the command of the arguments on the files of the machine. -/
def main (arguments : List String) : IO UInt32 := do
  match Command.ofArguments arguments with
  | .error e =>
    if e = .help then IO.println usage else IO.eprintln usage
    return e.code.toUInt32
  | .ok command =>
    let outcome ← command.outcome machineFiles
    IO.eprint outcome.warnings
    IO.print outcome.output
    match outcome.failure with
    | none => return 0
    | some f =>
      IO.eprintln s!"Error: {f.message}"
      return 1
