import Routewright.Text.Quoted

/-!
# Errors of generation

What keeps endpoints from becoming code. An error carries the endpoint it is about, which stands in
front of its message.
-/

namespace Routewright

/-- Who holds a name that another declaration wants. -/
inductive NameOwner
  | sharedType
  | endpoint (name : String)
  deriving DecidableEq, Repr

/-- How a message refers to an owner. -/
def NameOwner.text : NameOwner → String
  | .sharedType => "a shared prelude type"
  | .endpoint name => "endpoint '" ++ name ++ "'"

/-- What keeps an endpoint from becoming code. -/
inductive GenerationFault
  /-- It declares no method. -/
  | noMethod
  /-- It declares not exactly one method although it should have been normalized. -/
  | methodCount (found : Nat)
  /-- A declared type has no host type. -/
  | unmappedType (name : Option String)
  /-- A template has another number of holes than parameters are supplied. -/
  | holeCount (template : String) (holes params : Nat)
  /-- A formatting template has another number of holes than its builder binds parameters. -/
  | formatHoles (template : String) (holes : Int) (params : Nat)
  /-- Segments have another number of holes than their builder binds parameters. -/
  | pushHoles (holes params : Nat)
  /-- A url part has the name of a parameter that generated code adds itself. -/
  | reservedPart (name template : String)
  /-- Two paths lead to one constructor. -/
  | constructorClash (first second constructorName : String)
  /-- A url part gives no type name. -/
  | unusablePart (name : String)
  /-- A declaration of an endpoint wants a name that is taken. -/
  | nameTaken (name : String) (owner : NameOwner)
  /-- The type of a url part wants a name that is taken. -/
  | typeTaken (name : String) (owner : NameOwner)
  deriving DecidableEq, Repr

/-- A text as messages show it, and `None` for none. -/
def shownOption : Option String → String
  | none => "None"
  | some s => Text.shown s

/-- The wording of a fault, without the endpoint. -/
def GenerationFault.text : GenerationFault → String
  | .noMethod => "no HTTP method declared"
  | .methodCount found => "expected exactly one method, found " ++ toString found
  | .unmappedType name =>
    "declared type " ++ shownOption name ++ " cannot be turned into a type name"
  | .holeCount template holes params =>
    "path template " ++ Text.shown template ++ " has " ++ toString holes
      ++ " parameter holes but " ++ toString params ++ " parameters were supplied"
  | .formatHoles template holes params =>
    "format template " ++ Text.shown template ++ " has " ++ toString holes
      ++ " parameter holes but binds " ++ toString params ++ " parameters"
  | .pushHoles holes params =>
    "push segments has " ++ toString holes ++ " parameter holes but binds " ++ toString params
      ++ " parameters"
  | .reservedPart name template =>
    "url part '" ++ name ++ "' in " ++ Text.shown template
      ++ " collides with a generated parameter"
  | .constructorClash first second constructorName =>
    "paths " ++ Text.shown first ++ " and " ++ Text.shown second
      ++ " both produce the constructor '" ++ constructorName ++ "'"
  | .unusablePart name =>
    "url part " ++ Text.shown name ++ " cannot be turned into a type name"
  | .nameTaken name owner =>
    "generated name '" ++ name ++ "' is already used by " ++ owner.text
  | .typeTaken name owner =>
    "url part type '" ++ name ++ "' is already used by " ++ owner.text

/-- A fault together with the endpoint it is about, if one is known. -/
structure GenerationError where
  endpoint : Option String
  fault : GenerationFault
  deriving DecidableEq, Repr

/-- The wording of an error. -/
def GenerationError.message (e : GenerationError) : String :=
  match e.endpoint with
  | none => e.fault.text
  | some name => if name.isEmpty then e.fault.text else name ++ ": " ++ e.fault.text

end Routewright
