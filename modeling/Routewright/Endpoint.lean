import Routewright.HostType
import Routewright.HttpMethod
import Routewright.Template

/-!
# Endpoints

An endpoint is one named operation of a web interface: the methods and paths it may be called by,
the parts of its urls with their declared types, and whether it takes a body.
-/

namespace Routewright

/-- What an endpoint says about the body of a request. -/
structure BodySpec where
  required : Bool := false
  description : String := ""
  deriving DecidableEq, Repr

/-- A named operation. `parts` lists each declared part once, and `origin` is the document that
declared the endpoint. -/
structure Endpoint where
  name : String
  documentation : String := ""
  methods : List HttpMethod := []
  paths : List UrlPath := []
  parts : List (String × SpecType) := []
  body : Option BodySpec := none
  origin : Option String := none
  deriving DecidableEq, Repr

namespace Endpoint

/-- The name of an endpoint together with its document. -/
def identity (e : Endpoint) : String :=
  match e.origin with
  | none => e.name
  | some origin => if origin.isEmpty then e.name else e.name ++ " (" ++ origin ++ ")"

/-- The method of an endpoint that declares exactly one. -/
def method? (e : Endpoint) : Option HttpMethod :=
  match e.methods with
  | [m] => some m
  | _ => none

/-- What is said about an endpoint that is asked for its only method and has none or several. -/
def notNormalized (e : Endpoint) : String :=
  "Endpoint '" ++ e.name ++ "' has not been normalized"

end Endpoint

end Routewright
