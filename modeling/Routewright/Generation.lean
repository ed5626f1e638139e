import Routewright.Request.Lowering

/-!
# Generation

Endpoints become one tree of code. Each endpoint in turn is described and lowered, then the names of
all declarations are compared, and last the shared types are declared.
-/

namespace Routewright

open Code

/-- What a generation gives: the normalized endpoints, the requests of each name, the shared types
and the code. -/
structure Generated where
  endpoints : List Endpoint
  requests : List (String × List Request)
  types : SharedTypes
  code : Module
  deriving Repr

/-- What the endpoints so far gave. -/
structure Described where
  requests : List (String × List Request) := []
  types : List (String × SharedTypes) := []
  items : List Item := []
  deriving Repr

namespace Described

/-- What endpoints give after those before them. Endpoints of one name share an entry. -/
def ofEndpoints (policy : Policy) (before : Described) :
    List Endpoint → Except GenerationFailure Described
  | [] => .ok before
  | e :: rest => do
    let (requests, types) ← e.requests policy
    let items ← (Request.items requests).mapError e.failure
    ofEndpoints policy
      { requests := Table.put e.name requests before.requests
        types := Table.put e.name types before.types
        items := before.items ++ items }
      rest

end Described

/-- The names that the requests of an endpoint declare for themselves, in order. -/
def ownNames (requests : List Request) : List String :=
  Sorted.texts (requests.map (·.typeName) ++ requests.map (·.urlFunction))

/-- The owner of each name that is taken before any endpoint declares one. -/
def sharedOwners : List (String × NameOwner) :=
  sharedTypeNames.map fun name => (name, .sharedType)

/-- Checks a name against those that have owners. -/
def checkFree (owners : List (String × NameOwner)) (endpoint : String)
    (fault : String → NameOwner → GenerationFault) (name : String) :
    Except GenerationError Unit :=
  match Table.find? name owners with
  | none => .ok ()
  | some owner => .error { endpoint := some endpoint, fault := fault name owner }

/-- Enters the names of one endpoint among those that have owners. -/
def takeNames (endpoint : String) (owners : List (String × NameOwner)) :
    List String → Except GenerationError (List (String × NameOwner))
  | [] => .ok owners
  | name :: rest => do
    checkFree owners endpoint .nameTaken name
    takeNames endpoint (owners ++ [(name, .endpoint endpoint)]) rest

/-- Enters the names of all endpoints. -/
def takeAll (owners : List (String × NameOwner)) :
    List (String × List Request) → Except GenerationError (List (String × NameOwner))
  | [] => .ok owners
  | (endpoint, requests) :: rest => do
    takeAll (← takeNames endpoint owners (ownNames requests)) rest

/-- Checks that no two declarations share a name. Shared types may belong to several endpoints, so
they are compared with the names of requests only. -/
def checkNames (requests : List (String × List Request)) (types : List (String × SharedTypes)) :
    Except GenerationError Unit := do
  let owners ← takeAll sharedOwners requests
  types.forM fun (endpoint, t) => t.names.forM (checkFree owners endpoint .typeTaken)

namespace SharedTypes

/-- The wrapper of a name: it converts from its hosts, itself apart. -/
def wrapperDecl (name : String) (hosts : List HostType) : Wrapper :=
  { name, hosts := hosts.filter fun h => !(h.kind = .named && h.name = some name) }

/-- The declarations of shared types. A text type whose name a wrapper has is that wrapper. -/
def items (types : SharedTypes) : List Item :=
  .prelude :: types.wrappers.map (fun w => .wrapper (wrapperDecl w.1 w.2))
    ++ (types.named.filter fun n => (Table.find? n types.wrappers).isNone).map fun n =>
      .namedText { name := n }

end SharedTypes

/-- The opening comment of generated files. -/
def bannerLines : List String :=
  ["This code is automatically generated"]

/-- The code of request declarations and shared types. -/
def assemble (items : List Item) (types : SharedTypes) : Module where
  namespaces :=
    [{ name := "requests", items, uses := ["params"] }, { name := "params", items := types.items }]
  banner := bannerLines

/-- The types of all endpoints together. -/
def mergeTypes (types : List (String × SharedTypes)) : SharedTypes :=
  types.foldl (fun all t => all.merge t.2) {}

/-- Generates code from endpoints. -/
def generate (endpoints : List Endpoint) (policy : Policy) :
    Except GenerationFailure Generated := do
  let normalized ← normalize endpoints policy
  let described ← Described.ofEndpoints policy {} normalized
  (checkNames described.requests described.types).mapError GenerationFailure.generation
  let types := mergeTypes described.types
  return {
    endpoints := normalized
    requests := described.requests
    types
    code := assemble described.items types }

end Routewright
