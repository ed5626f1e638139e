import Routewright.Identifier
import Routewright.Text.Lines
import Routewright.Text.Quoted

/-!
# Endpoint names as module paths

An endpoint name such as `cluster.put_settings` is a path of identifiers separated by dots.
-/

namespace Routewright

/-- Why a text is no module path. -/
inductive ModulePathFault
  | empty
  | badToken (token name : String)
  deriving DecidableEq, Repr

/-- The wording of a fault. -/
def ModulePathFault.message : ModulePathFault → String
  | .empty => "Endpoint name is empty"
  | .badToken token name =>
    "Cannot use " ++ Text.shown token ++ " from endpoint name " ++ Text.shown name
      ++ " as an identifier"

/-- The tokens of an endpoint name; the first token that is no identifier is reported. -/
def modulePath (name : String) : Except ModulePathFault (List String) :=
  if name.isEmpty then .error .empty
  else
    let tokens := Text.pieces '.' name.toList
    match tokens.find? fun token => !isIdentifier token with
    | some token => .error (.badToken (String.ofList token) name)
    | none => .ok (tokens.map String.ofList)

end Routewright
