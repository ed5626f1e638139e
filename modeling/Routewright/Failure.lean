import Routewright.Description.Fault
import Routewright.Files.Fault
import Routewright.Normalization

/-!
# Failures

Everything that ends a run before its result, with the message that is shown and the number that the
program exits with.
-/

namespace Routewright

namespace ExitCode

/-- The run succeeded. -/
def success : Nat := 0

/-- The settings are wrong, or something unexpected happened. -/
def failure : Nat := 1

/-- The program was called in a wrong way. -/
def usage : Nat := 2

/-- A description cannot be loaded or read. -/
def description : Nat := 7

/-- Endpoints cannot be turned into code. -/
def generation : Nat := 8

/-- The name of an endpoint is no module path. -/
def modulePath : Nat := 9

end ExitCode

/-- What is wrong with the settings. -/
inductive ConfigFault
  | notFound (path : String)
  | notUtf8 (path : String) (fault : Text.Utf8Fault)
  | json (path text : String) (fault : Json.Fault)
  | notObject (path : String)
  | invalid (path : String) (error : ValidationError)
  | unknownTarget (name : String)
  | unknownStrategy (name : String)
  deriving Repr

/-- The wording of a fault in the settings. -/
def ConfigFault.message : ConfigFault → String
  | .notFound path => "Config file not found: " ++ path
  | .notUtf8 path fault => "Invalid config at " ++ path ++ ": " ++ fault.message
  | .json path text fault => "Invalid config at " ++ path ++ ": " ++ fault.message text
  | .notObject path => "Invalid config at " ++ path ++ ": expected a JSON object"
  | .invalid path error => "Invalid config at " ++ path ++ ": " ++ error.summary
  | .unknownTarget name => "Unknown target '" ++ name ++ "'"
  | .unknownStrategy name => "Unknown URL strategy '" ++ name ++ "'"

/-- A failure that is told to the user. -/
inductive Failure
  | usage (message : String)
  | config (fault : ConfigFault)
  | description (fault : DescriptionFault)
  | derivation (fault : DerivationFault)
  | modulePath (fault : ModulePathFault)
  | generation (error : GenerationError)
  deriving Repr

namespace Failure

/-- The message of a failure. -/
def message : Failure → String
  | .usage message => message
  | .config fault => fault.message
  | .description fault => fault.message
  | .derivation fault => fault.message
  | .modulePath fault => fault.message
  | .generation error => error.message

/-- The number that the program exits with. -/
def exitCode : Failure → Nat
  | .usage _ => ExitCode.usage
  | .config _ => ExitCode.failure
  | .description _ | .derivation _ => ExitCode.description
  | .modulePath _ => ExitCode.modulePath
  | .generation _ => ExitCode.generation

/-- A failure of generation. -/
def ofGeneration : GenerationFailure → Failure
  | .derivation fault => .derivation fault
  | .modulePath fault => .modulePath fault
  | .generation error => .generation error

end Failure

/-- What ends an operation: a failure that is told to the user, a value that does not fit its model,
something unexpected in a description, a file that cannot be written, or a shell that asks about a
command line and does not tell it. -/
inductive Problem
  | failure (f : Failure)
  | invalid (error : ValidationError)
  | irregular (irregularity : Irregularity)
  | file (fault : FileFault)
  | noLine
  deriving Repr

namespace Problem

/-- A problem with a description. -/
def ofDescription : DescriptionFailure → Problem
  | .fault fault => .failure (.description fault)
  | .irregular (.names error) => .invalid error
  | .irregular other => .irregular other

/-- A problem of generation. -/
def ofGeneration (f : GenerationFailure) : Problem :=
  .failure (Failure.ofGeneration f)

end Problem

end Routewright
