import Routewright.Code.Tree
import Routewright.Request

/-!
# Requests as code

A url builder becomes a function from a base address and url parts to a url. The requests of an
endpoint become these functions, and one record with a constructor for each path and the conversion
into a transport independent request.
-/

namespace Routewright

open Code

/-- The type of a url. -/
def urlType : String := "Url"

/-- The type of a request ready for transport. -/
def requestType : String := "HttpRequest"

/-- The type of a method. -/
def methodType : String := "HttpMethod"

namespace UrlBuilder

/-- The length of each piece that segments contribute; an empty literal contributes none. -/
def segmentLengths : List Segment → List Expr
  | [] => []
  | .literal text :: rest =>
    if text.isEmpty then segmentLengths rest
    else .length (.literal (.text text)) :: segmentLengths rest
  | .param name :: rest => .length (.variable name) :: segmentLengths rest

/-- The exact length of the url for segments, as a sum nested to the left. -/
def capacityExpr (segments : List Segment) : Expr :=
  (segmentLengths segments).foldl Expr.sum (.length (.variable baseParam))

/-- The statements that push segments into the buffer. -/
def segmentPushes : List Segment → List Stmt
  | [] => []
  | .literal text :: rest =>
    if text.isEmpty then segmentPushes rest
    else .push bufferName (.literal (.text text)) :: segmentPushes rest
  | .param name :: rest => .push bufferName (.variable name) :: segmentPushes rest

/-- The body of the url function of a builder. -/
def bodyOf : UrlBuilder → List Stmt
  | .format template params =>
    [.result (.convert urlType
      (.format template (.variable baseParam :: params.map Expr.variable)))]
  | .push segments _ =>
    .bind bufferName (.newBuffer (capacityExpr segments)) true
      :: .push bufferName (.variable baseParam)
      :: segmentPushes segments
      ++ [.result (.convert urlType (.finishBuffer (.variable bufferName)))]

/-- The base address as a parameter. -/
def baseParamDecl : Param :=
  { name := baseParam, type := .host HostType.plain true }

/-- The function of a builder, whose parameters have the types that `typeOf` names. -/
def toFunction (builder : UrlBuilder) (name : String) (typeOf : String → String) (doc : String) :
    Except GenerationFault Function := do
  builder.validate
  return {
    name
    params := baseParamDecl
      :: builder.params.map fun p => { name := p, type := .named (typeOf p) true false }
    returns := .named urlType false false
    body := builder.bodyOf
    doc }

end UrlBuilder

namespace Request

/-- The documentation of a url function. -/
def urlDoc (r : Request) : String :=
  let start := "Url of a `" ++ r.endpoint ++ "` request"
  if r.shape.isEmpty then start ++ "." else start ++ " for " ++ Text.join ", " r.shape ++ "."

/-- The type of the wrapper that a path parameter of a request has. -/
def typeOfParam (r : Request) (name : String) : String :=
  (Table.find? name ((r.params.filter fun p => p.role = .path).map fun p =>
    (p.name, p.typeName))).getD ""

/-- The url function of a request. -/
def urlFunctionDecl (r : Request) : Except GenerationFault Function :=
  r.urlBuilder.toFunction r.urlFunction r.typeOfParam r.urlDoc

/-- The type of the body of a request. -/
def bodyTypeRef (r : Request) : TypeRef :=
  .named bodyType false (!r.bodyRequired)

/-- A parameter of the constructor of a request. -/
def paramDecl (r : Request) (p : RequestParam) : Param :=
  match p.role with
  | .base => { name := p.name, type := .host HostType.plain true }
  | .path => { name := p.name, type := .named p.typeName true false }
  | .body => { name := p.name, type := r.bodyTypeRef, defaultsToAbsent := !r.bodyRequired }

/-- The call of the url function of a request with the parameters of its constructor. -/
def urlCall (r : Request) : Expr :=
  .call r.urlFunction
    ((r.params.filter fun p => p.role ≠ .body).map fun p => .variable p.name)

/-- The constructor of a request. -/
def makerDecl (r : Request) : Function where
  name := r.maker
  params := r.params.map r.paramDecl
  returns := .enclosing
  body :=
    [.result (.construct .enclosing
      (("url", r.urlCall) :: if r.hasBody then [(bodyParam, .variable bodyParam)] else []))]
  kind := .maker
  doc := "Request `" ++ r.endpoint ++ "` at `" ++ r.path ++ "`."

/-- The body that the conversion of a request hands on. -/
def bodyExpr (r : Request) : Expr :=
  if !r.hasBody then .literal .absent
  else if r.bodyRequired then .present (.member .receiver bodyParam)
  else .member .receiver bodyParam

/-- The conversion of a request into a transport independent one. -/
def conversionDecl (r : Request) : Function where
  name := "into_http_request"
  params := []
  returns := .named requestType false false
  body :=
    [.result (.construct (.named requestType false false)
      [("method", .enumMember methodType r.method.name),
        ("url", .member .receiver "url"),
        ("body", r.bodyExpr),
        ("headers", .call "default_headers" [])])]
  kind := .method

/-- The record of the requests of an endpoint, the first of which decides what they share. -/
def recordDecl (first : Request) (requests : List Request) : Record where
  name := first.typeName
  fields :=
    { name := "url", type := .named urlType false false }
      :: if first.hasBody then [{ name := bodyParam, type := first.bodyTypeRef }] else []
  functions := requests.map makerDecl ++ [first.conversionDecl]
  doc := first.documentation

/-- The declarations for the requests of an endpoint; without requests there are none. -/
def items : List Request → Except GenerationFault (List Item)
  | [] => .ok []
  | first :: rest => do
    let functions ← (first :: rest).mapM urlFunctionDecl
    return functions.map Item.function ++ [.record (recordDecl first (first :: rest))]

end Request

end Routewright
