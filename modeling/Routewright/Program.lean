import Routewright.CommandLine.Completion
import Routewright.Inspection

/-!
# The program

A call of the program from its arguments to its exit code. A failure that is told to the user ends
with its own code; anything unexpected is described in a crash log.
-/

namespace Routewright

/-- What a crash log says about a problem. -/
def Problem.description : Problem → String
  | .failure f => f.message
  | .invalid e => e.summary
  | .noLine => "the shell does not tell its command line"
  | .irregular i =>
    match i with
    | .longInteger => "an integer has too many digits"
    | .tooDeep => "values are inside each other too deeply"
    | .scalar _ => "a scalar has no value"
    | .names e => e.summary
    | .notUtf8 fault => fault.message
    | .contentType fault => fault.message
    | .address fault => fault.message
  | .file fault => fault.message

namespace Program

variable {m : Type → Type} [Monad m] [Machine m]

/-- Carries out a command. -/
def carryOut (console : Console) (config : Option String) : Command → Task m Unit
  | .generate overrides => generateCode console config overrides
  | .inspectEndpoints spec => inspectEndpoints console config spec
  | .inspectEndpoint name spec => inspectEndpoint console config name spec

/-- Writes a crash log about a problem. -/
def writeCrashLog (p : Problem) : FileTask m Path := do
  let logs := (← DataDirectory.make (m := m)).child "logs"
  Machine.makeDirectories logs
  let path := logs.child ("crash-" ++ (← Machine.timestamp (m := m)) ++ ".log")
  Machine.write path (p.description ++ "\n")
  return path

/-- Tells of something unexpected, which must be described in a crash log first. -/
def reportCrash (console : Console) (p : Problem) : FileTask m Nat := do
  let path ← writeCrashLog p
  console.error (m := m) ("Unexpected error. Debug log: " ++ path.text)
  return ExitCode.failure

/-- The exit code of a command that ended. -/
def conclude (console : Console) : Except Problem Unit → FileTask m Nat
  | .ok _ => return ExitCode.success
  | .error (.failure f) => do
    console.error (m := m) f.message
    return f.exitCode
  | .error p => reportCrash console p

/-- Carries out what a call asks for. -/
def answer : Invocation → FileTask m Nat
  | .help topic requested => do
    Machine.print (m := m) topic.text
    return if requested then ExitCode.success else ExitCode.usage
  | .version => do
    Machine.print (m := m) versionLine
    return ExitCode.success
  | .run options command => do
    let console ← Console.configure (m := m)
      options.format options.noColor options.quiet options.verbose
    conclude console (← (carryOut (m := m) console options.config command).run)

/-- Tells a shell what its command line may become. -/
def complete (shell : Completion.Shell) : FileTask m Nat := do
  let line ← Machine.environment (m := m) "COMP_WORDS"
  let position ← Machine.environment (m := m) "COMP_CWORD"
  match line.bind fun line => position.bind (shell.line? line) with
  | some (words, word) =>
    Machine.print (m := m) (shell.reply words word)
    return ExitCode.success
  | none =>
    reportCrash (← Console.configure (m := m) none false false false) .noLine

/-- Answers a shell that asks through a variable. -/
def answerShell (request : String) : FileTask m Nat :=
  match Completion.Request.parse request with
  | .ok (.script shell) => do
    Machine.print (m := m) (shell.script ++ "\n")
    return ExitCode.success
  | .ok (.candidates shell) => complete shell
  | .error fault => do
    Machine.report (m := m) (fault.message ++ "\n")
    return ExitCode.failure

/-- Carries out a call. -/
def call (arguments : List String) : FileTask m Nat :=
  match Invocation.ofArguments arguments with
  | .ok invocation => answer invocation
  | .error refusal => do
    Machine.report (m := m) refusal.report
    return ExitCode.usage

/-- Runs the program and gives its exit code. It has none if something unexpected happened and could
not be described in a crash log. -/
def run (arguments : List String) : FileTask m Nat := do
  match ← Machine.environment (m := m) Completion.variableName with
  | none | some "" => call arguments
  | some request => answerShell request

end Program

end Routewright
