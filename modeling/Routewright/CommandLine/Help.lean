import Routewright.CommandLine.Invocation
import Routewright.DataDirectory

/-!
# Help

What is shown about the use of the program and its commands.
-/

namespace Routewright

/-- The version of the program. -/
def version : String := "0.1.0"

/-- What is shown about the version. -/
def versionLine : String :=
  DataDirectory.programName ++ " " ++ version ++ "\n"

namespace HelpTopic

/-- The words that call what help is about. -/
def words : HelpTopic → List String
  | .program => []
  | .generate => ["generate"]
  | .inspect => ["inspect"]
  | .inspectEndpoints => ["inspect", "endpoints"]
  | .inspectEndpoint => ["inspect", "endpoint"]

/-- What follows the words of a call. -/
def operands : HelpTopic → String
  | .program | .inspect => "[OPTIONS] COMMAND [ARGS]..."
  | .generate | .inspectEndpoints => "[OPTIONS]"
  | .inspectEndpoint => "[OPTIONS] NAME"

/-- What a call does. -/
def purpose : HelpTopic → String
  | .program => "Compile REST API endpoint descriptors into request builder source."
  | .generate => "Generate request builders from endpoint descriptors."
  | .inspect => "Inspect normalized endpoints."
  | .inspectEndpoints => "List all endpoints after normalization."
  | .inspectEndpoint => "Show one normalized endpoint and its request descriptors as JSON."

/-- The options of a call. -/
def specs : HelpTopic → List OptionSpec
  | .program => Invocation.programSpecs
  | .generate => Invocation.generateSpecs
  | .inspect => [Invocation.helpOption]
  | .inspectEndpoints | .inspectEndpoint => Invocation.inspectSpecs

/-- The commands of a group, each with what it does. -/
def commands : HelpTopic → List HelpTopic
  | .program => [.generate, .inspect]
  | .inspect => [.inspectEndpoints, .inspectEndpoint]
  | _ => []

/-- How a call is written. -/
def usage (topic : HelpTopic) : String :=
  Text.join " "
    (["Usage:", DataDirectory.programName] ++ topic.words ++ [topic.operands])

/-- The line of an option. -/
def optionLine (spec : OptionSpec) : String :=
  "  " ++ Text.join ", " spec.names ++ (if spec.takesValue then " VALUE" else "") ++ "  "
    ++ spec.purpose

/-- The line of a command in the help of its group. -/
def commandLine (topic : HelpTopic) : String :=
  "  " ++ (topic.words.getLast?).getD "" ++ "  " ++ topic.purpose

/-- The help about a call. -/
def text (topic : HelpTopic) : String :=
  let options := "Options:" :: topic.specs.map optionLine
  let commands :=
    if topic.commands.isEmpty then []
    else "" :: "Commands:" :: topic.commands.map commandLine
  Text.join "\n" ([topic.usage, "", "  " ++ topic.purpose, ""] ++ options ++ commands) ++ "\n"

end HelpTopic

/-- What is shown when a call is refused. -/
def Refusal.report (refusal : Refusal) : String :=
  Text.join "\n" [HelpTopic.program.usage, "", "Error: " ++ refusal.message] ++ "\n"

end Routewright
