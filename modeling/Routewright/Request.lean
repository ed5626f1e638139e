import Routewright.ModulePath
import Routewright.Normalization
import Routewright.SharedTypes
import Routewright.UrlBuilder

/-!
# Requests

Each path of a normalized endpoint becomes a request: a constructor with its parameters, and the
builder of its url. All requests of an endpoint share one record type. Names of constructors and url
functions are made from the shape of the path, so two paths of one endpoint may not lead to the
same one.
-/

namespace Routewright

/-- What a parameter of a request stands for. -/
inductive ParamRole
  | base
  | path
  | body
  deriving DecidableEq, Repr

/-- The label of a role. -/
def ParamRole.label : ParamRole → String
  | .base => "base"
  | .path => "path"
  | .body => "body"

/-- A parameter of a request constructor. -/
structure RequestParam where
  name : String
  role : ParamRole
  typeName : String
  deriving DecidableEq, Repr

/-- The request for one path of an endpoint. -/
structure Request where
  endpoint : String
  typeName : String
  shapeName : String
  params : List RequestParam
  urlBuilder : UrlBuilder
  urlFunction : String
  path : String
  method : HttpMethod
  hasBody : Bool
  bodyRequired : Bool
  documentation : String
  deriving DecidableEq, Repr

/-- The name of the body among the parameters of a request. -/
def bodyParam : String := "body"

/-- The type of a body. -/
def bodyType : String := "Body"

/-- The name of the buffer inside a url function. -/
def bufferName : String := "url_fmtd"

/-- The names that generated functions use themselves. -/
def reservedParams : List String :=
  [baseParam, bodyParam, bufferName, "cls"]

/-- The name of the constructor for a path without parameters. -/
def plainMaker : String := "new"

/-- The part of a constructor's name that its shape decides. -/
def shapeText (shape : List String) : String :=
  if shape.isEmpty then plainMaker else Text.join "_" shape

/-- The name of the constructor for a shape. -/
def makerName (shape : List String) : String :=
  if shape.isEmpty then plainMaker else "for_" ++ Text.join "_" shape

/-- The name of the url function for a shape of the endpoint of some tokens. -/
def urlFunctionName (tokens shape : List String) : String :=
  if shape.isEmpty then Text.join "_" tokens ++ "_url"
  else Text.join "_" tokens ++ "_url_" ++ Text.join "_" shape

/-- The name of the record type of the endpoint of some tokens. -/
def requestTypeName (tokens : List String) : String :=
  String.join (tokens.map pascal) ++ "Request"

namespace Request

/-- The parameters that a request takes from its path. -/
def shape (r : Request) : List String :=
  (r.params.filter fun p => p.role = .path).map (·.name)

/-- The name of the constructor of a request. -/
def maker (r : Request) : String :=
  if r.shape.isEmpty then plainMaker else "for_" ++ r.shapeName

/-- The parameters of the request for a shape. -/
def paramsFor (shape : List String) (hasBody : Bool) : List RequestParam :=
  { name := baseParam, role := .base, typeName := "text" }
    :: shape.map (fun name => { name, role := .path, typeName := sharedTypeName name })
    ++ if hasBody then [{ name := bodyParam, role := .body, typeName := bodyType }] else []

/-- The request for one path of an endpoint, whose constructors so far are `made`. -/
def ofPath (e : Endpoint) (method : HttpMethod) (tokens : List String) (strategy : Strategy)
    (made : List (String × String)) (path : UrlPath) : Except GenerationFault Request := do
  let shape := path.params
  match shape.find? fun name => name ∈ reservedParams with
  | some name => throw (.reservedPart name path.template)
  | none => pure ()
  match Table.find? (makerName shape) made with
  | some first => throw (.constructorClash first path.template (makerName shape))
  | none => pure ()
  let urlBuilder ← UrlBuilder.build path strategy none
  return {
    endpoint := e.name
    typeName := requestTypeName tokens
    shapeName := shapeText shape
    params := paramsFor shape e.body.isSome
    urlBuilder
    urlFunction := urlFunctionName tokens shape
    path := path.template
    method
    hasBody := e.body.isSome
    bodyRequired := (e.body.map (·.required)).getD false
    documentation := e.documentation }

/-- The requests for paths of an endpoint, in order. -/
def ofPaths (e : Endpoint) (method : HttpMethod) (tokens : List String) (strategy : Strategy)
    (made : List (String × String)) : List UrlPath → Except GenerationFault (List Request)
  | [] => .ok []
  | path :: rest => do
    let request ← ofPath e method tokens strategy made path
    let requests ← ofPaths e method tokens strategy ((makerName path.params, path.template) :: made)
      rest
    return request :: requests

end Request

/-- A fault in an endpoint, as a failure of the generation that names it. -/
def Endpoint.failure (e : Endpoint) (fault : GenerationFault) : GenerationFailure :=
  .generation { endpoint := some e.name, fault }

/-- The requests of a normalized endpoint and the types they refer to. -/
def Endpoint.requests (e : Endpoint) (policy : Policy) :
    Except GenerationFailure (List Request × SharedTypes) :=
  match e.methods with
  | [method] => do
    let tokens ← (modulePath e.name).mapError GenerationFailure.modulePath
    let types ← e.sharedTypes.mapError e.failure
    let requests ←
      (Request.ofPaths e method tokens (policy.strategyFor e.name) [] e.paths).mapError e.failure
    return (requests, types)
  | methods => .error (e.failure (.methodCount methods.length))

end Routewright
