/-!
# Command lines

A command line names a command (`render`, `plan` or `apply`) and a file. Options of the program
stand before the command, and those of the command before or behind the file. An option that
takes a value has it behind `=`, in the next argument or, for an option of one letter, directly
behind the letter. If an option comes again, its last value counts; behind `--` no argument is
an option.

Results:
* `ofArgs?_command`: a command without options of the program keeps its own arguments.
-/

namespace AlbListener

/-- How a listener is shown. -/
inductive OutputFormat
  | table
  | json
  | yaml
  deriving DecidableEq, Repr

/-- The format of a name. -/
def OutputFormat.ofName? (s : String) : Option OutputFormat :=
  if s = "table" then some .table
  else if s = "json" then some .json
  else if s = "yaml" then some .yaml
  else none

/-- What is done with the request in a file: its listener is shown, compared with the live one,
    or brought about. -/
inductive Command
  | render (file : String) (format : OutputFormat)
  | plan (file : String)
  | apply (file : String) (watch : Bool)
  deriving DecidableEq, Repr

namespace CommandLine

/-- An option: its name, a letter for it, and whether it takes a value. -/
structure OptionSpec where
  name : String
  letter? : Option Char
  takesValue : Bool

/-- The options that were given, with the value of those that take one, and the other
    arguments. -/
structure Parsed where
  options : List (String × String)
  arguments : List String

/-- Adds an option in front. -/
def Parsed.addOption (parsed : Parsed) (name value : String) : Parsed :=
  { parsed with options := (name, value) :: parsed.options }

/-- Adds an argument in front. -/
def Parsed.addArgument (parsed : Parsed) (argument : String) : Parsed :=
  { parsed with arguments := argument :: parsed.arguments }

/-- The name and the value of an option that is written with `=`, or its name alone. -/
def splitValue (argument : String) : String × Option String :=
  let cs := argument.toList
  let name := String.ofList (cs.takeWhile (· != '='))
  match cs.dropWhile (· != '=') with
  | _ :: value => (name, some (String.ofList value))
  | [] => (name, none)

/-- What is to be done with an argument: it is no option, the options end with it, or it is an
    option that is complete or takes the next argument as its value. -/
inductive Reading
  | argument
  | endOfOptions
  | complete (name value : String)
  | needsValue (name : String)
  | unknown

/-- How an argument is read. An option that takes no value may not be given one, and every
    option with a letter takes a value. -/
def readArgument (specs : List OptionSpec) (argument : String) : Reading :=
  if argument = "--" then .endOfOptions
  else
    match argument.toList with
    | '-' :: letter :: attached =>
      let (name, value?) := splitValue argument
      match specs.find? (·.name == name) with
      | some spec =>
        match spec.takesValue, value? with
        | true, some value => .complete name value
        | true, none => .needsValue name
        | false, some _ => .unknown
        | false, none => .complete name ""
      | none =>
        match specs.find? fun spec => spec.takesValue && spec.letter? == some letter with
        | some spec =>
          if attached.isEmpty then .needsValue spec.name
          else .complete spec.name (String.ofList attached)
        | none => .unknown
    | _ => .argument

/-- The options and arguments of a list, unless one is not known. Where arguments end the
    options, everything from the first one on is an argument. -/
def parse (specs : List OptionSpec) (argumentsEnd : Bool) : List String → Option Parsed
  | [] => some ⟨[], []⟩
  | first :: rest =>
    match readArgument specs first, rest with
    | .argument, rest =>
      if argumentsEnd then some ⟨[], first :: rest⟩
      else (parse specs argumentsEnd rest).map fun p => p.addArgument first
    | .endOfOptions, rest => some ⟨[], rest⟩
    | .complete name value, rest =>
      (parse specs argumentsEnd rest).map fun p => p.addOption name value
    | .needsValue name, value :: rest =>
      (parse specs argumentsEnd rest).map fun p => p.addOption name value
    | .needsValue _, [] | .unknown, _ => none

/-- The value of an option that was given last. -/
def Parsed.last? (parsed : Parsed) (name : String) : Option String :=
  (parsed.options.reverse.find? fun option => option.1 == name).map (·.2)

/-! ## The program and its commands -/

/-- The options of the program. -/
def programOptions : List OptionSpec := [⟨"--log-level", none, true⟩]

/-- The options of `render`. -/
def renderOptions : List OptionSpec := [⟨"--output", some 'o', true⟩]

/-- The options of `apply`. -/
def applyOptions : List OptionSpec := [⟨"--watch", none, false⟩]

/-- The commands by name. -/
inductive CommandName
  | render
  | plan
  | apply
  deriving DecidableEq, Repr

/-- The command of a name. -/
def CommandName.ofName? (s : String) : Option CommandName :=
  if s = "render" then some .render
  else if s = "plan" then some .plan
  else if s = "apply" then some .apply
  else none

/-- A command line up to the command: the level of what is recorded, if one is given, the
    command, and its own arguments. -/
structure Invocation where
  logLevel? : Option String
  command : CommandName
  arguments : List String

/-- The command line in a list of arguments, if there is a known command (`click.group`). -/
def ofArgs? (args : List String) : Option Invocation := do
  let parsed ← parse programOptions true args
  match parsed.arguments with
  | [] => none
  | name :: arguments =>
    return { logLevel? := parsed.last? "--log-level", command := ← CommandName.ofName? name,
             arguments }

/-- The file of a command, which is its only argument. -/
def file? (parsed : Parsed) : Option String :=
  match parsed.arguments with
  | [file] => some file
  | _ => none

/-- The command with its own arguments. -/
def Invocation.command? (i : Invocation) : Option Command :=
  match i.command with
  | .render => do
    let parsed ← parse renderOptions false i.arguments
    let format ←
      match parsed.last? "--output" with
      | some name => OutputFormat.ofName? name
      | none => some .table
    return .render (← file? parsed) format
  | .plan => do
    return .plan (← file? (← parse [] false i.arguments))
  | .apply => do
    let parsed ← parse applyOptions false i.arguments
    return .apply (← file? parsed) (parsed.last? "--watch").isSome

theorem ofArgs?_command (command : String) (arguments : List String)
    (h : readArgument programOptions command = .argument) :
    ofArgs? (command :: arguments) =
      (CommandName.ofName? command).map fun name => ⟨none, name, arguments⟩ := by
  cases hc : CommandName.ofName? command <;> simp [ofArgs?, parse, h, hc, Parsed.last?]

end CommandLine

end AlbListener
