/-!
# `ShapeSchema.Command.Arguments`: the command line

The first argument names a command, and options follow. An option takes one value or several; a
value is attached with `=`, directly after a short name, or stands in the arguments after it. What
starts with a hyphen is never a value, except the hyphen alone.
-/

set_option autoImplicit false

namespace ShapeSchema

/-- Why the arguments are not run. -/
inductive UsageError where
  | help
  | helpOnMissingCommand
  | missingArgument
  | unknownArgument
  | unknownCommand
  | conflict
  | invalidValue
  | tooManyValues
  deriving DecidableEq, Repr

/-- The exit code: asking for help is no failure. -/
def UsageError.code : UsageError → Nat
  | .help => 0
  | _ => 2

/-- Where the models come from. -/
structure Inputs where
  patterns : List String
  /-- The place of the model inside each document. -/
  pointer : Option String := none
  /-- A filter, every output of which is a model. -/
  filter : Option String := none
  deriving DecidableEq, Repr

/-- What a run is asked to do: to make schemas, to make descriptors of tools, or to check documents.
-/
inductive Command where
  | schema (inputs : Inputs) (shape out : Option String)
  | tools (inputs : Inputs) (lead out : Option String)
  | validate (inputs : Inputs) (shape : String) (data : List String)
  deriving DecidableEq, Repr

namespace Arguments

/-- An option and the values that it takes. -/
structure OptionSpec where
  name : String
  short : Option Char := none
  /-- Takes several values, and may be repeated. -/
  several : Bool := false
  required : Bool := false
  /-- Refuses the empty value. -/
  nonempty : Bool := false
  deriving DecidableEq, Repr

/-- The options that say where the models are. -/
def inputOptions : List OptionSpec :=
  [{ name := "json-pointer" }, { name := "jq-expr" },
   { name := "input", short := some 'i', several := true, required := true }]

/-- The file to write to. -/
def outOption : OptionSpec := { name := "out", short := some 'o', nonempty := true }

/-- The commands by name, before their options are read. -/
inductive CommandName where
  | schema
  | tools
  | validate
  deriving DecidableEq, Repr

namespace CommandName

/-- The command of a word. -/
def ofText? (s : String) : Option CommandName :=
  match s with
  | "schema" => some .schema
  | "tools" => some .tools
  | "validate" => some .validate
  | _ => none

/-- The options of a command. -/
def options : CommandName → List OptionSpec
  | .schema => inputOptions ++ [{ name := "shape" }, outOption]
  | .tools => inputOptions ++ [{ name := "prefix" }, outOption]
  | .validate =>
    inputOptions ++
      [{ name := "shape", required := true }, { name := "data", several := true, required := true }]

end CommandName

/-- The values of options, by name. -/
abbrev Values := List (String × List String)

/-- What has been read: the values of finished options, the option being read with its values so
far, and whether more may follow. -/
structure State where
  values : Values := []
  pending : Option (OptionSpec × List String) := none
  isOpen : Bool := false

/-- Adds the values of an option to those before. -/
def record (values : Values) (spec : OptionSpec) (new : List String) : Except UsageError Values :=
  match values.lookup spec.name with
  | none =>
    if spec.nonempty && new.contains "" then .error .invalidValue
    else .ok (values ++ [(spec.name, new)])
  | some old =>
    if spec.several then
      .ok (values.map fun v => if v.1 == spec.name then (v.1, old ++ new) else v)
    else .error .conflict

/-- Ends the option being read. -/
def settle (s : State) : Except UsageError State :=
  match s.pending with
  | none => .ok { s with isOpen := false }
  | some (_, []) => .error .invalidValue
  | some (spec, new) => do return { values := ← record s.values spec new }

/-- Starts an option, or reads it whole if its value is attached. -/
def start (s : State) (spec : OptionSpec) (attached : Option String) : Except UsageError State := do
  let s ← settle s
  match attached with
  | some value => return { s with values := ← record s.values spec [value] }
  | none => return { s with pending := some (spec, []), isOpen := true }

/-- Takes an argument that is no option. -/
def value (s : State) (argument : String) : Except UsageError State :=
  match s.pending, s.isOpen with
  | some (spec, seen), true =>
    .ok { s with pending := some (spec, seen ++ [argument]), isOpen := spec.several }
  | _, _ => .error .unknownArgument

/-- The text before and after the first equals sign. -/
def splitAtEquals (s : List Char) : String × Option String :=
  match s.dropWhile (· != '=') with
  | [] => (String.ofList s, none)
  | _ :: rest => (String.ofList (s.takeWhile (· != '=')), some (String.ofList rest))

/-- A value attached to a short name. -/
def attachedTo (rest : List Char) : Option String :=
  match rest with
  | [] => none
  | '=' :: rest => some (String.ofList rest)
  | rest => some (String.ofList rest)

/-- Reads an argument. -/
def step (specs : List OptionSpec) (s : State) (argument : String) : Except UsageError State :=
  match argument.toList with
  | '-' :: '-' :: rest =>
    let (name, attached) := splitAtEquals rest
    if name == "help" then
      if attached.isSome then .error .tooManyValues
      else do
        -- An option that still lacks its value is an error, even where help is asked for.
        let _ ← settle s
        throw .help
    else
      match specs.find? fun o => o.name == name with
      | some spec => start s spec attached
      | none => .error .unknownArgument
  | '-' :: c :: rest =>
    if c = 'h' then do
      let _ ← settle s
      throw .help
    else
      match specs.find? fun o => o.short == some c with
      | some spec => start s spec (attachedTo rest)
      | none => .error .unknownArgument
  | _ => value s argument

/-- Reads all arguments. Nothing may follow a lone `--`. -/
def readAll (specs : List OptionSpec) (s : State) : List String → Except UsageError State
  | [] => settle s
  | "--" :: rest => if rest.isEmpty then settle s else .error .unknownArgument
  | argument :: rest => do readAll specs (← step specs s argument) rest

/-- The values of options, all that are required among them. -/
def readValues (specs : List OptionSpec) (arguments : List String) : Except UsageError Values := do
  let s ← readAll specs {} arguments
  if specs.all fun o => !o.required || (s.values.lookup o.name).isSome then return s.values
  else throw .missingArgument

/-- All values of an option, in order. -/
def many (values : Values) (name : String) : List String := (values.lookup name).getD []

/-- The value of an option that takes one. -/
def single? (values : Values) (name : String) : Option String := (many values name).head?

/-- Where the models are, from the values of the options. -/
def inputs (values : Values) : Inputs where
  patterns := many values "input"
  pointer := single? values "json-pointer"
  filter := single? values "jq-expr"

/-- The command of a name and option values. -/
def command (name : CommandName) (values : Values) : Command :=
  match name with
  | .schema => .schema (inputs values) (single? values "shape") (single? values "out")
  | .tools => .tools (inputs values) (single? values "prefix") (single? values "out")
  | .validate =>
    .validate (inputs values) ((single? values "shape").getD "") (many values "data")

/-- Help is asked for with a command of its own, perhaps about one of the commands. -/
def helpCommand (about : List String) : UsageError :=
  match about with
  | [] => .help
  | [name] => if name == "help" || (CommandName.ofText? name).isSome then .help else .unknownCommand
  | _ => .unknownCommand

/-- What is wrong with arguments that do not start with the name of a command. -/
def misplaced (first : String) (rest : List String) : UsageError :=
  if first == "--" then
    match rest with
    | [] => .helpOnMissingCommand
    | name :: _ =>
      if name == "help" || (CommandName.ofText? name).isSome then .unknownArgument
      else .unknownCommand
  else
    match first.toList with
    | '-' :: '-' :: name =>
      let (name, attached) := splitAtEquals name
      if name == "help" then (if attached.isSome then .tooManyValues else .help)
      else .unknownArgument
    | '-' :: 'h' :: _ => .help
    | '-' :: _ :: _ => .unknownArgument
    | _ => .unknownCommand

end Arguments

open Arguments in
/-- The command that arguments ask for. -/
def Command.ofArguments (arguments : List String) : Except UsageError Command :=
  match arguments with
  | [] => .error .helpOnMissingCommand
  | first :: rest =>
    match CommandName.ofText? first with
    | some name => do return command name (← readValues name.options rest)
    | none =>
      if first == "help" then .error (helpCommand rest) else .error (misplaced first rest)

end ShapeSchema
