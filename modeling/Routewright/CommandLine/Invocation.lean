import Routewright.CommandLine.Arguments
import Routewright.Config.Settings
import Routewright.Console

/-!
# Invocations

What a call of the program asks for: help, the version, or a command with its options. Help and
version go before everything that is wrong with a call, except for options that cannot be read.
-/

namespace Routewright

/-- The part of the program that help is asked for. -/
inductive HelpTopic
  | program
  | generate
  | inspect
  | inspectEndpoints
  | inspectEndpoint
  deriving DecidableEq, Repr

/-- A command with its options. -/
inductive Command
  | generate (overrides : Overrides)
  | inspectEndpoints (spec : Option String)
  | inspectEndpoint (name : String) (spec : Option String)
  deriving DecidableEq, Repr

/-- The options in front of a command. -/
structure ProgramOptions where
  config : Option String := none
  format : Option DataFormat := none
  noColor : Bool := false
  quiet : Bool := false
  verbose : Bool := false
  deriving DecidableEq, Repr

/-- What a call asks for. Help that is shown because nothing was asked for is not `requested`. -/
inductive Invocation
  | help (topic : HelpTopic) (requested : Bool)
  | version
  | run (options : ProgramOptions) (command : Command)
  deriving DecidableEq, Repr

namespace Invocation

/-- The option that asks for help. -/
def helpOption : OptionSpec := { long := "--help", purpose := "Show this message and exit." }

/-- The options in front of a command. -/
def programSpecs : List OptionSpec :=
  [{ long := "--version", purpose := "Show version and exit." },
    { long := "--config", short := some 'c', takesValue := true
      purpose := "Path to a restgen.json config file." },
    { long := "--json", purpose := "JSON output for inspect tables." },
    { long := "--plain", purpose := "Plain text output." },
    { long := "--no-color", purpose := "Disable color output." },
    { long := "--quiet", short := some 'q', purpose := "Suppress non-essential output." },
    { long := "--verbose", short := some 'v', purpose := "Enable debug output." },
    helpOption]

/-- The option that names a description. -/
def specOption : OptionSpec where
  long := "--spec"
  short := some 's'
  takesValue := true
  purpose := "Descriptor directory, file or URL."

/-- The options of the command that generates code. -/
def generateSpecs : List OptionSpec :=
  [specOption,
    { long := "--output", short := some 'o', takesValue := true
      purpose := "Output file ('-' for stdout)." },
    { long := "--target", short := some 't', takesValue := true, purpose := "Target language."
      choices := Target.all.map Target.label },
    { long := "--strategy", takesValue := true, purpose := "URL assembly strategy."
      choices := Strategy.all.map Strategy.label },
    { long := "--no-markers", purpose := "Omit the generated-code banner comment." },
    helpOption]

/-- The options of the commands that inspect endpoints. -/
def inspectSpecs : List OptionSpec :=
  [specOption, helpOption]

/-- What is asked for before anything else: the first of help and version. -/
def eager? (topic : HelpTopic) (a : Arguments) : Option Invocation :=
  (a.options.find? fun o => o.1 = "--help" || o.1 = "--version").map fun o =>
    if o.1 = "--help" then .help topic true else .version

/-- The label that equals a text but for the case of its letters, if the option is given. -/
def choice (a : Arguments) (option : String) (labels : List String) :
    Except Refusal (Option String) :=
  match a.value? option with
  | none => .ok none
  | some v =>
    match labels.find? fun label => Text.upper label.toList = Text.upper v.toList with
    | some label => .ok (some label)
    | none => .error (.badChoice option v)

/-- Checks that there are no operands. -/
def noOperands (operands : List String) : Except Refusal Unit :=
  if operands.isEmpty then .ok () else .error (.extraOperands operands)

/-- The options in front of a command. -/
def programOptions (a : Arguments) : ProgramOptions where
  config := a.value? "--config"
  format := if a.has "--json" then some .json else if a.has "--plain" then some .plain else none
  noColor := a.has "--no-color"
  quiet := a.has "--quiet"
  verbose := a.has "--verbose"

/-- What a call of the command that generates code asks for. -/
def readGenerate (options : ProgramOptions) (arguments : List String) :
    Except Refusal Invocation := do
  let a ← Arguments.read generateSpecs true arguments
  match eager? .generate a with
  | some invocation => return invocation
  | none =>
    let target ← choice a "--target" (Target.all.map Target.label)
    let strategy ← choice a "--strategy" (Strategy.all.map Strategy.label)
    noOperands a.operands
    return .run options (.generate {
      spec := a.value? "--spec"
      output := a.value? "--output"
      target, strategy
      markers := if a.has "--no-markers" then some false else none })

/-- What a call of the command that lists endpoints asks for. -/
def readEndpoints (options : ProgramOptions) (arguments : List String) :
    Except Refusal Invocation := do
  let a ← Arguments.read inspectSpecs true arguments
  match eager? .inspectEndpoints a with
  | some invocation => return invocation
  | none =>
    noOperands a.operands
    return .run options (.inspectEndpoints (a.value? "--spec"))

/-- What a call of the command that shows an endpoint asks for. -/
def readEndpoint (options : ProgramOptions) (arguments : List String) :
    Except Refusal Invocation := do
  let a ← Arguments.read inspectSpecs true arguments
  match eager? .inspectEndpoint a with
  | some invocation => return invocation
  | none =>
    match a.operands with
    | [] => throw (.missingOperand "NAME")
    | name :: rest =>
      noOperands rest
      return .run options (.inspectEndpoint name (a.value? "--spec"))

/-- What a call of a group of commands asks for. Options are read again if the name of the command
is unknown, since one that follows a double dash may look like an option. -/
def readGroup (topic : HelpTopic) (specs : List OptionSpec)
    (command? : ProgramOptions → String → Option (List String → Except Refusal Invocation))
    (arguments : List String) : Except Refusal Invocation := do
  if arguments.isEmpty then return .help topic false
  let a ← Arguments.read specs false arguments
  match eager? topic a with
  | some invocation => return invocation
  | none =>
    match a.operands with
    | [] => throw .missingCommand
    | name :: rest =>
      match command? (programOptions a) name with
      | some read => read rest
      | none =>
        let again ← Arguments.read specs false (name :: rest)
        match eager? topic again with
        | some invocation => return invocation
        | none => throw (.unknownCommand name)

/-- What a call of the group that inspects endpoints asks for. -/
def readInspect (options : ProgramOptions) : List String → Except Refusal Invocation :=
  readGroup .inspect [helpOption] fun _ name =>
    if name = "endpoints" then some (readEndpoints options)
    else if name = "endpoint" then some (readEndpoint options)
    else none

/-- What a call of the program asks for. -/
def ofArguments : List String → Except Refusal Invocation :=
  readGroup .program programSpecs fun options name =>
    if name = "generate" then some (readGenerate options)
    else if name = "inspect" then some (readInspect options)
    else none

end Invocation

end Routewright
