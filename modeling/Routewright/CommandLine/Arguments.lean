import Routewright.Text.Lines

/-!
# Options among arguments

Arguments hold options and operands. An option has a long name, and perhaps a short one that may
share an argument with others; its value is in the same argument or is the next one. A double dash
ends the options.
-/

namespace Routewright

/-- An option: its names, whether it takes a value, what it is for, and the values it has if they
are few. -/
structure OptionSpec where
  long : String
  short : Option Char := none
  takesValue : Bool := false
  purpose : String := ""
  choices : List String := []
  deriving DecidableEq, Repr

/-- The names of an option as they are written. -/
def OptionSpec.names (spec : OptionSpec) : List String :=
  spec.long :: (spec.short.map fun c => "-" ++ String.singleton c).toList

/-- What is wrong with the arguments of a call. -/
inductive Refusal
  | unknownOption (name : String)
  | missingValue (name : String)
  | unexpectedValue (name : String)
  | badChoice (option value : String)
  | missingCommand
  | unknownCommand (name : String)
  | missingOperand (name : String)
  | extraOperands (names : List String)
  deriving DecidableEq, Repr

/-- The wording of a refusal. -/
def Refusal.message : Refusal → String
  | .unknownOption name => "No such option: " ++ name
  | .missingValue name => "Option '" ++ name ++ "' requires an argument."
  | .unexpectedValue name => "Option '" ++ name ++ "' does not take a value."
  | .badChoice option value =>
    "Invalid value for '" ++ option ++ "': '" ++ value ++ "' is not one of its choices."
  | .missingCommand => "Missing command."
  | .unknownCommand name => "No such command '" ++ name ++ "'."
  | .missingOperand name => "Missing argument '" ++ name ++ "'."
  | .extraOperands names => "Got unexpected extra arguments (" ++ Text.join " " names ++ ")"

/-- Options in the order in which they are given, by their long names, and the operands. -/
structure Arguments where
  options : List (String × String) := []
  operands : List String := []
  deriving DecidableEq, Repr

namespace Arguments

/-- Puts options in front of arguments. -/
def withOptions (options : List (String × String)) (a : Arguments) : Arguments :=
  { a with options := options ++ a.options }

/-- Puts an operand in front of arguments. -/
def withOperand (operand : String) (a : Arguments) : Arguments :=
  { a with operands := operand :: a.operands }

/-- Whether an option is given. -/
def has (a : Arguments) (long : String) : Bool :=
  a.options.any fun o => o.1 = long

/-- The value of an option, the last one if it is given several times. -/
def value? (a : Arguments) (long : String) : Option String :=
  (a.options.reverse.find? fun o => o.1 = long).map Prod.snd

/-- The options of an argument that holds short ones, and the option whose value is the next
argument. -/
def readShort (specs : List OptionSpec) :
    List Char → Except Refusal (List (String × String) × Option String)
  | [] => .ok ([], none)
  | c :: cs =>
    match specs.find? fun spec => spec.short = some c with
    | none => .error (.unknownOption ("-" ++ String.singleton c))
    | some spec =>
      if spec.takesValue then
        if cs.isEmpty then .ok ([], some spec.long)
        else .ok ([(spec.long, String.ofList cs)], none)
      else (readShort specs cs).map fun r => ((spec.long, "") :: r.1, r.2)

/-- A text up to the first equals sign, and what follows that. -/
def splitAtEquals (cs : List Char) : List Char × Option (List Char) :=
  match cs.dropWhile (· ≠ '=') with
  | [] => (cs, none)
  | _ :: after => (cs.takeWhile (· ≠ '='), some after)

/-- The options of an argument, and the option whose value is the next argument. An argument that is
no long option is read as short ones. -/
def readOption (specs : List OptionSpec) (argument : String) :
    Except Refusal (List (String × String) × Option String) :=
  let (name, value) := splitAtEquals argument.toList
  match specs.find? fun spec => spec.long = String.ofList name with
  | some spec =>
    match value with
    | some v =>
      if spec.takesValue then .ok ([(spec.long, String.ofList v)], none)
      else .error (.unexpectedValue spec.long)
    | none => if spec.takesValue then .ok ([], some spec.long) else .ok ([(spec.long, "")], none)
  | none =>
    if argument.startsWith "--" then .error (.unknownOption (String.ofList name))
    else readShort specs (argument.toList.drop 1)

/-- Whether an argument holds options. -/
def isOption (argument : String) : Bool :=
  argument.startsWith "-" && argument ≠ "-"

/-- The options and operands of arguments. Unless options may follow operands, the first operand
ends the options. -/
def read (specs : List OptionSpec) (mixed : Bool) : List String → Except Refusal Arguments
  | [] => .ok {}
  | argument :: rest =>
    if argument = "--" then .ok { operands := rest }
    else if isOption argument then
      match readOption specs argument with
      | .error refusal => .error refusal
      | .ok (options, none) => (read specs mixed rest).map (withOptions options)
      | .ok (options, some waiting) =>
        match rest with
        | [] => .error (.missingValue waiting)
        | v :: rest => (read specs mixed rest).map (withOptions (options ++ [(waiting, v)]))
    else if mixed then (read specs mixed rest).map (withOperand argument)
    else .ok { operands := argument :: rest }

/-- The options among the letters of an argument that stand before one that is unknown. -/
def flagsOf (specs : List OptionSpec) (argument : String) : List (String × String) :=
  if argument.startsWith "--" then []
  else
    let known := (argument.toList.drop 1).map fun c => specs.find? fun spec => spec.short = some c
    (known.takeWhile Option.isSome).filterMap fun spec => spec.map fun spec => (spec.long, "")

/-- The options and operands of arguments up to the first that cannot be read. -/
def readSoFar (specs : List OptionSpec) (mixed : Bool) : List String → Arguments
  | [] => {}
  | argument :: rest =>
    if argument = "--" then { operands := rest }
    else if isOption argument then
      match readOption specs argument with
      | .error _ => { options := flagsOf specs argument }
      | .ok (options, none) => withOptions options (readSoFar specs mixed rest)
      | .ok (options, some waiting) =>
        match rest with
        | [] => { options }
        | v :: rest => withOptions (options ++ [(waiting, v)]) (readSoFar specs mixed rest)
    else if mixed then withOperand argument (readSoFar specs mixed rest)
    else { operands := argument :: rest }

end Arguments

end Routewright
