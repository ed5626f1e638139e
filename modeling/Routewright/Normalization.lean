import Routewright.Endpoint
import Routewright.GenerationError
import Routewright.ModulePath
import Routewright.Policy
import Routewright.Sorted

/-!
# Normalization of endpoints

Before code is generated, derived endpoints are added, every endpoint keeps a single method, and of
its paths those of one shape collapse into the last of them. The surviving paths are ordered by
shape.
-/

namespace Routewright

/-- Why a rule derives no endpoint. -/
inductive DerivationFault
  | conflict (target : String)
  | unknownSource (target source : String)
  deriving DecidableEq, Repr

/-- The wording of a fault. -/
def DerivationFault.message : DerivationFault → String
  | .conflict target => "Derived endpoint '" ++ target ++ "' conflicts with a declared endpoint"
  | .unknownSource target source =>
    "Derived endpoint '" ++ target ++ "' refers to unknown endpoint '" ++ source ++ "'"

/-- Why endpoints cannot be turned into code. -/
inductive GenerationFailure
  | derivation (fault : DerivationFault)
  | modulePath (fault : ModulePathFault)
  | generation (error : GenerationError)
  deriving DecidableEq, Repr

/-- The last endpoint that satisfies a condition. -/
def Endpoint.last? (p : Endpoint → Bool) (endpoints : List Endpoint) : Option Endpoint :=
  endpoints.reverse.find? p

namespace DerivedRule

/-- The clone that a rule makes of an endpoint. -/
def clone (rule : DerivedRule) (source : Endpoint) : Endpoint :=
  { source with
    name := rule.target
    methods := [rule.method]
    body := if rule.clearBody then none else source.body }

/-- The endpoint that a rule derives among others. -/
def apply (rule : DerivedRule) (endpoints : List Endpoint) : Except DerivationFault Endpoint :=
  if endpoints.any fun e => e.name = rule.target then .error (.conflict rule.target)
  else match Endpoint.last? (fun e => e.name = rule.source) endpoints with
    | none => .error (.unknownSource rule.target rule.source)
    | some source => .ok (rule.clone source)

/-- Endpoints followed by those that rules derive, one after the other. -/
def applyAll (endpoints : List Endpoint) : List DerivedRule → Except DerivationFault (List Endpoint)
  | [] => .ok endpoints
  | rule :: rest => do
    let derived ← rule.apply endpoints
    applyAll (endpoints ++ [derived]) rest

end DerivedRule

namespace Endpoint

/-- An endpoint with the one method that is chosen among those it declares. -/
def selectMethod (e : Endpoint) (order : Option (List HttpMethod)) :
    Except GenerationError Endpoint :=
  match HttpMethod.choose e.methods order with
  | none => .error { endpoint := some e.identity, fault := .noMethod }
  | some m => .ok { e with methods := [m] }

/-- Paths by shape, the last of each, in the order of shapes. -/
def pathsByShape (paths : List UrlPath) : List (List String × UrlPath) :=
  paths.foldl (fun table path => Sorted.put Sorted.rowBefore path.params path table) []

/-- An endpoint with one path for each shape. -/
def collapsePaths (e : Endpoint) : Endpoint :=
  { e with paths := (pathsByShape e.paths).map Prod.snd }

/-- What is noted about an endpoint whose paths collapse. -/
def collapseNote? (e : Endpoint) : Option String :=
  let kept := (pathsByShape e.paths).length
  if kept = e.paths.length then none
  else some (e.name ++ ": collapsed " ++ toString e.paths.length ++ " paths into "
    ++ toString kept ++ " shapes")

end Endpoint

/-- Endpoints with the derived ones added, each with one method and one path for each shape. -/
def normalize (endpoints : List Endpoint) (policy : Policy) :
    Except GenerationFailure (List Endpoint) := do
  let all ← (DerivedRule.applyAll endpoints policy.derived).mapError GenerationFailure.derivation
  all.mapM fun e =>
    ((e.selectMethod policy.verbOrder).map Endpoint.collapsePaths).mapError
      GenerationFailure.generation

end Routewright
