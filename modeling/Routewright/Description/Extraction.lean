import Routewright.Description.Document
import Routewright.Endpoint
import Routewright.Table
import Routewright.Text.Case
import Routewright.Text.Blank

/-!
# Endpoints of documents

Each entry of a document declares an endpoint. Declarations may leave out most fields and write some
of them in two ways; the endpoints that come out are complete and have parsed paths.
-/

namespace Routewright

/-- The scalar categories by the names that declare them. -/
def scalarNames : List (String × SpecKind) :=
  [("boolean", .bool), ("bool", .bool), ("long", .long), ("integer", .int), ("int", .int),
    ("short", .short), ("byte", .byte), ("double", .double), ("float", .float), ("string", .str),
    ("str", .str), ("text", .str), ("binary", .bin), ("bin", .bin)]

/-- The type that a value declares by its name. -/
def SpecType.ofDeclared (declared : Value) : SpecType :=
  match declared with
  | .null => { kind := .other }
  | v =>
    let name := Text.trim v.display.toList
    if name.isEmpty then { kind := .other }
    else match Table.find? (String.ofList (Text.lower name)) scalarNames with
      | some kind => { kind }
      | none => { kind := .other, name := some (String.ofList name) }

namespace Description

/-- The first of two values that counts as present. -/
def orElse (a b : Value) : Value :=
  if a.isTruthy then a else b

/-- Why a value declares no endpoint. -/
inductive Refusal
  | fault (fault : EndpointFault)
  /-- An integer that has to be written has too many digits. -/
  | longInteger
  deriving Repr

/-- The text that a value reads as. -/
def written (v : Value) : Except Refusal String :=
  if v.hasText then .ok v.display else .error .longInteger

/-- The text of a value, empty if it does not count as present. -/
def textIfPresent (v : Value) : Except Refusal String :=
  if v.isTruthy then written v else .ok ""

/-- Documentation is a text, or an object with an address or a description. -/
def documentation (v : Value) : Except Refusal String :=
  match v.opened with
  | .null => .ok ""
  | .map entries =>
    textIfPresent (orElse (Value.field entries "url") (Value.field entries "description"))
  | _ => written v

/-- Adds the method that a value names, in any case, to those before it. -/
def addMethods (methods : List HttpMethod) :
    List Value → Except Refusal (List HttpMethod)
  | [] => .ok methods
  | v :: rest => do
    let name ← written v
    match HttpMethod.ofName? (String.ofList (Text.upper name.toList)) with
    | none => throw (.fault (.unsupportedMethod v))
    | some m => addMethods (Table.insert m methods) rest

/-- The declared methods, each once. -/
def methods (v : Value) : Except Refusal (List HttpMethod) :=
  match v.opened with
  | .null => .ok []
  | .list items => addMethods [] items
  | _ => .error (.fault .methodsNotList)

/-- The path of a value that must be a template. -/
def path : Value → Except Refusal UrlPath
  | .text s => (UrlPath.parse s).mapError fun fault => .fault (.paths (.template s fault))
  | v => if v.hasText then .error (.fault (.paths (.notText v))) else .error .longInteger

/-- The declared templates: a list, or a single one if there is no list. -/
def templates (url : Document) : Except PathsFault (List Value) :=
  match (Value.field url "paths").opened with
  | .null =>
    match Value.field url "path" with
    | .null => .error .none
    | single => .ok [single]
  | .list [] => .error .none
  | .list items => .ok items
  | _ => .error .notList

/-- The declared paths, of which there must be one. -/
def paths (url : Document) : Except Refusal (List UrlPath) := do
  let declared ← (templates url).mapError fun fault => .fault (.paths fault)
  declared.mapM path

/-- The type of a part: a name, or an object that holds it. -/
def partType (v : Value) : Except Refusal SpecType := do
  let name := match v.opened with
    | .map entries => Value.field entries "type"
    | _ => v
  if name.hasText then return SpecType.ofDeclared name else throw .longInteger

/-- The declared parts with their types. -/
def parts (v : Value) : Except Refusal (List (Value × SpecType)) :=
  match v.opened with
  | .null => .ok []
  | .map entries => entries.mapM fun e => return (e.1, ← partType e.2)
  | _ => .error (.fault .partsNotObject)

/-- What is said about a body, null if there is none. -/
def body (v : Value) : Except Refusal (Option BodySpec) :=
  match v.opened with
  | .null => .ok none
  | .map entries => do
    let description ← textIfPresent (Value.field entries "description")
    return some { required := (Value.field entries "required").isTruthy, description }
  | _ => .error (.fault .bodyNotObject)

/-- The parts whose names must be texts. -/
def namedParts : List (Value × SpecType) → Checked (List (String × SpecType))
  | [] => .valid []
  | (k, type) :: rest =>
    (((Checked.textKey k).map fun name => (name, type)).map List.cons).ap (namedParts rest)

/-- The table of the parts whose names must be texts. -/
def partTable (parts : List (Value × SpecType)) : Checked (List (String × SpecType)) :=
  (namedParts parts).map Table.ofList

/-- The endpoint that a value declares under a name that should be a text. -/
def declared (origin : String) (name descriptor : Value) :
    Except Refusal (Checked Endpoint) := do
  let .map entries := descriptor.opened | throw (.fault .notObject)
  let .map url := (Value.field entries "url").opened | throw (.fault .noUrl)
  let paths ← paths url
  let documentation ← documentation (Value.field entries "documentation")
  let methods ← methods (Value.field entries "methods")
  let parts ← parts (Value.field url "parts")
  let body ← body (Value.field entries "body")
  let build (name : String) (parts : List (String × SpecType)) : Endpoint :=
    { name, documentation, methods, paths, parts, body, origin := some origin }
  return (((Checked.text name).under (.field "name")).map build).ap
    ((partTable parts).under (.field "parts"))

/-- The endpoint that a value declares under a name. Whatever is wrong, the name is written
first. -/
def endpoint (origin : String) (name descriptor : Value) : Except DescriptionFailure Endpoint :=
  if !name.hasText then .error (.irregular .longInteger)
  else match declared origin name descriptor with
    | .error (.fault fault) => .error (.fault (.endpoint name.display origin fault))
    | .error .longInteger => .error (.irregular .longInteger)
    | .ok checked =>
      (checked.validate "Endpoint").mapError fun e => .irregular (.names e)

/-- Names that are declared, with the documents that declare them. -/
abbrev Declared := List (Value × String)

/-- The document that declares a name. -/
def Declared.find? (name : Value) (seen : Declared) : Option String :=
  (List.find? (fun e => e.1.sameKey name) seen).map Prod.snd

/-- The endpoints of the entries of one document, and the names that are declared with them. -/
def ofEntries (origin : String) (seen : Declared) :
    Document → Except DescriptionFailure (List Endpoint × Declared)
  | [] => .ok ([], seen)
  | (name, descriptor) :: rest =>
    match seen.find? name with
    | some first => .error (.fault (.duplicate name.display origin first))
    | none => do
      let e ← endpoint origin name descriptor
      let (more, seen) ← ofEntries origin ((name, origin) :: seen) rest
      return (e :: more, seen)

/-- The endpoints of documents, whose names must be new. -/
def ofDocuments (seen : Declared) :
    List (String × Document) → Except DescriptionFailure (List Endpoint)
  | [] => .ok []
  | (origin, document) :: rest => do
    let (endpoints, seen) ← ofEntries origin seen document
    return endpoints ++ (← ofDocuments seen rest)

/-- The endpoints that documents declare, in order. -/
def endpoints (documents : List (String × Document)) : Except DescriptionFailure (List Endpoint) :=
  ofDocuments [] documents

end Description

end Routewright
