import Routewright.CommandLine.Help
import Routewright.CommandLine.Words
import Routewright.Task
import Routewright.Text.Blank
import Routewright.Text.Numeral

/-!
# Completion

A shell asks the program through a variable for one of two things instead of a call: the script that
makes the shell ask again, or what a word at the end of a command line may become. The line is read
like the arguments of a call, but for what is wrong with it, which is left out.
-/

namespace Routewright.Completion

/-! ## What is asked for -/

/-- The shells that are known. -/
inductive Shell
  | bash
  | zsh
  | fish
  deriving DecidableEq, Repr

/-- The name of a shell. -/
def Shell.name : Shell → String
  | .bash => "bash"
  | .zsh => "zsh"
  | .fish => "fish"

/-- The shell of a name. -/
def Shell.ofName? (s : String) : Option Shell :=
  [Shell.bash, .zsh, .fish].find? fun shell => shell.name = s

/-- What a shell asks for. -/
inductive Request
  | script (shell : Shell)
  | candidates (shell : Shell)
  deriving DecidableEq, Repr

/-- Why nothing can be told to a shell. -/
inductive Fault
  | malformed
  | unknownShell (name : String)
  | unknownTask (name : String)
  deriving DecidableEq, Repr

/-- The wording of a fault. -/
def Fault.message : Fault → String
  | .malformed => "Invalid completion instruction."
  | .unknownShell name => "Shell " ++ name ++ " not supported."
  | .unknownTask name => "Completion instruction \"" ++ name ++ "\" not supported."

/-- The variable through which a shell asks. -/
def variableName : String :=
  "_" ++ DataDirectory.programName.toUpper ++ "_COMPLETE"

/-- The request that a variable holds: a task and a shell with an underscore between them. -/
def Request.parse (s : String) : Except Fault Request :=
  let task := s.toList.takeWhile (· ≠ '_')
  match s.toList.drop task.length with
  | [] => .error .malformed
  | _ :: name =>
    match Shell.ofName? (String.ofList name) with
    | none => .error (.unknownShell (String.ofList name))
    | some shell =>
      if String.ofList task = "source" then .ok (.script shell)
      else if String.ofList task = "complete" then .ok (.candidates shell)
      else .error (.unknownTask (String.ofList task))

/-! ## Scripts -/

/-- The function of a shell that asks for candidates. -/
def functionName : String :=
  "_" ++ DataDirectory.programName ++ "_completion"

/-- The script for one shell. -/
def bashScript : List String :=
  [
    functionName ++ "() \x7b",
    "    local IFS=$'\\n'",
    "    local response",
    "",
    "    response=$(env COMP_WORDS=\"$\x7bCOMP_WORDS[*]\x7d\" COMP_CWORD=$COMP_CWORD "
      ++ variableName ++ "=bash_complete $1)",
    "",
    "    for completion in $response; do",
    "        IFS=',' read type value <<< \"$completion\"",
    "",
    "        if [[ $type == 'dir' ]]; then",
    "            COMPREPLY=()",
    "            compopt -o dirnames",
    "        elif [[ $type == 'file' ]]; then",
    "            COMPREPLY=()",
    "            compopt -o default",
    "        elif [[ $type == 'plain' ]]; then",
    "            COMPREPLY+=($value)",
    "        fi",
    "    done",
    "",
    "    return 0",
    "\x7d",
    "",
    functionName ++ "_setup() \x7b",
    "    complete -o nosort -F " ++ functionName ++ " " ++ DataDirectory.programName,
    "\x7d",
    "",
    functionName ++ "_setup;",
    ""]

/-- The script for one shell. -/
def zshScript : List String :=
  [
    "#compdef " ++ DataDirectory.programName,
    "",
    functionName ++ "() \x7b",
    "    local -a completions",
    "    local -a completions_with_descriptions",
    "    local -a response",
    "    (( ! $+commands[" ++ DataDirectory.programName ++ "] )) && return 1",
    "",
    "    response=(\"$\x7b(@f)$(env COMP_WORDS=\"$\x7bwords[*]\x7d\" COMP_CWORD=$((CURRENT-1)) "
      ++ variableName ++ "=zsh_complete " ++ DataDirectory.programName ++ ")\x7d\")",
    "",
    "    for type key descr in $\x7bresponse\x7d; do",
    "        if [[ \"$type\" == \"plain\" ]]; then",
    "            if [[ \"$descr\" == \"_\" ]]; then",
    "                completions+=(\"$key\")",
    "            else",
    "                completions_with_descriptions+=(\"$key\":\"$descr\")",
    "            fi",
    "        elif [[ \"$type\" == \"dir\" ]]; then",
    "            _path_files -/",
    "        elif [[ \"$type\" == \"file\" ]]; then",
    "            _path_files -f",
    "        fi",
    "    done",
    "",
    "    if [ -n \"$completions_with_descriptions\" ]; then",
    "        _describe -V unsorted completions_with_descriptions -U",
    "    fi",
    "",
    "    if [ -n \"$completions\" ]; then",
    "        compadd -U -V unsorted -a completions",
    "    fi",
    "\x7d",
    "",
    "if [[ $zsh_eval_context[-1] == loadautofunc ]]; then",
    "    # autoload from fpath, call function directly",
    "    " ++ functionName ++ " \"$@\"",
    "else",
    "    # eval/source/. command, register function for later",
    "    compdef " ++ functionName ++ " " ++ DataDirectory.programName,
    "fi",
    ""]

/-- The script for one shell. -/
def fishScript : List String :=
  [
    "function " ++ functionName ++ ";",
    "    set -l response (env " ++ variableName ++ "=fish_complete "
      ++ "COMP_WORDS=(commandline -cp) COMP_CWORD=(commandline -t) " ++ DataDirectory.programName
      ++ ");",
    "",
    "    for completion in $response;",
    "        set -l metadata (string split \",\" $completion);",
    "",
    "        if test $metadata[1] = \"dir\";",
    "            __fish_complete_directories $metadata[2];",
    "        else if test $metadata[1] = \"file\";",
    "            __fish_complete_path $metadata[2];",
    "        else if test $metadata[1] = \"plain\";",
    "            echo $metadata[2];",
    "        end;",
    "    end;",
    "end;",
    "",
    "complete --no-files --command " ++ DataDirectory.programName ++ " --arguments \"("
      ++ functionName ++ ")\";",
    ""]

/-- The script for a shell. -/
def Shell.script : Shell → String
  | .bash => Text.join "\n" bashScript
  | .zsh => Text.join "\n" zshScript
  | .fish => Text.join "\n" fishScript

/-! ## Candidates -/

/-- What a word may become, with what it is for. -/
structure Candidate where
  text : String
  purpose : String := ""
  deriving DecidableEq, Repr

/-- Where the words before the last one of a line lead: a part of the program, and the options and
operands that are given to it. -/
structure Context where
  topic : HelpTopic
  given : Arguments
  deriving Repr

/-- The name of a command in its group. -/
def commandName (topic : HelpTopic) : String :=
  topic.words.getLastD ""

/-- The context of the command that the first operand of a group names; where it names none, all
stays as it is. -/
def Context.descend (c : Context) : Context :=
  match c.given.operands with
  | [] => c
  | name :: rest =>
    match c.topic.commands.find? fun topic => commandName topic = name with
    | none => c
    | some topic => ⟨topic, Arguments.readSoFar topic.specs topic.commands.isEmpty rest⟩

/-- The context after some words. A command may be in a group of the program. -/
def contextOf (words : List String) : Context :=
  let c : Context := ⟨.program, Arguments.readSoFar HelpTopic.program.specs false words⟩
  c.descend.descend

/-- The options that a word may become. One that is given is left out. -/
def optionCandidates (c : Context) (word : String) : List Candidate :=
  if word.isEmpty then []
  else
    (c.topic.specs.filter fun spec => !c.given.has spec.long).flatMap fun spec =>
      (spec.names.filter fun name => name.startsWith word).map fun name =>
        { text := name, purpose := spec.purpose }

/-- The first words of a text, of at most `limit` characters with three dots behind them; `used`
says how many characters the words before take. -/
def firstWords (limit used : Nat) : List String → List String
  | [] => []
  | word :: rest =>
    let used := used + (if used = 0 then 0 else 1) + word.length
    if limit < used + 3 then [] else word :: firstWords limit used rest

/-- A purpose in at most 45 characters. -/
def shortened (purpose : String) : String :=
  if purpose.length ≤ 45 then purpose
  else Text.join " " (firstWords 45 0 (purpose.splitOn " ")) ++ "..."

/-- The commands that a word may become. -/
def commandCandidates (c : Context) (word : String) : List Candidate :=
  (c.topic.commands.filter fun topic => (commandName topic).startsWith word).map fun topic =>
    { text := commandName topic, purpose := shortened topic.purpose }

/-- The values of an option that a word may become. The case of letters is of no matter. -/
def choiceCandidates (spec : OptionSpec) (word : String) : List Candidate :=
  let lower := String.ofList (Text.lower word.toList)
  (spec.choices.filter fun value => value.startsWith lower).map fun value => { text := value }

/-- Whether the operand of a command is still to be written. -/
def Context.awaitsOperand (c : Context) : Bool :=
  c.topic = .inspectEndpoint && c.given.operands.isEmpty

/-- What the word at the end of a line may become, given the words before it. An option and its
value may share a word. -/
def candidates (words : List String) (word : String) : List Candidate :=
  let c := contextOf words
  let name := word.toList.takeWhile (· ≠ '=')
  let isJoined := word.contains '=' && word.startsWith "-"
  let words := if isJoined then words ++ [String.ofList name] else words
  let word :=
    if word = "=" then "" else if isJoined then (word.drop (name.length + 1)).toString else word
  let own := commandCandidates c word ++ optionCandidates c word
  if !words.contains "--" && word.startsWith "-" then own
  else
    let last := words.getLastD ""
    match c.topic.specs.find? fun spec => spec.takesValue && spec.names.contains last with
    | some spec => choiceCandidates spec word
    | none => if c.awaitsOperand then [] else own

/-- A text with a purpose behind it, which starts at the next column that is a multiple of eight. -/
def withPurpose (text purpose : String) : String :=
  if purpose.isEmpty then text
  else text ++ String.ofList (List.replicate (8 - text.length % 8) ' ') ++ purpose

/-- A candidate as a shell reads it. -/
def Candidate.line (shell : Shell) (c : Candidate) : String :=
  match shell with
  | .bash => "plain," ++ c.text
  | .zsh => "plain\n" ++ c.text ++ "\n" ++ (if c.purpose.isEmpty then "_" else c.purpose)
  | .fish => withPurpose ("plain," ++ c.text) c.purpose

/-! ## The command line -/

/-- The word before a position, which is counted from the end if it is negative. -/
def fromStart (count : Nat) (position : Int) : Nat :=
  if position < 0 then (position + count).toNat else position.toNat

/-- The words behind the name of the program and before the one at a position, and that word, which
is empty at the end. -/
def atPosition (words : List String) (position : Int) : List String × String :=
  let before := (words.take (fromStart words.length position)).drop 1
  let word := if position + words.length < 0 then none else words[fromStart words.length position]?
  (before, word.getD "")

/-- The words before the last one, and that word, of a line in which the last word may stand, too;
none if the word is blank. -/
def beforeWord (words : List String) (text : String) : Option (List String × String) :=
  let before := words.drop 1
  if text.isEmpty then some (before, "")
  else
    match Words.ofLine text with
    | [] => none
    | word :: _ =>
      if !word.isEmpty && before.getLast? = some word then some (before.dropLast, word)
      else some (before, word)

/-- What a shell has on its command line, with its word to be completed; none if the variables do
not tell it. -/
def Shell.line? (shell : Shell) (line position : String) : Option (List String × String) :=
  let words := Words.ofLine line
  match shell with
  | .fish => beforeWord words position
  | _ => (Text.integerIn? 10 position.toList).map (atPosition words)

/-- Whether words ask for the version of the program. -/
def asksForVersion (words : List String) : Bool :=
  (Arguments.readSoFar HelpTopic.program.specs false words).has "--version"

/-- What a shell is told about its command line. Words that ask for the version are told it
first. -/
def Shell.reply (shell : Shell) (words : List String) (word : String) : String :=
  let lines := (candidates words word).map (Candidate.line shell)
  (if asksForVersion words then versionLine else "") ++ Text.join "\n" lines ++ "\n"

end Routewright.Completion
