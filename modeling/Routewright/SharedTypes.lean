import Routewright.Endpoint
import Routewright.GenerationError
import Routewright.Identifier
import Routewright.Sorted
import Routewright.Table

/-!
# Shared types

Every url part has a wrapper type named after it, which remembers the host types the part is
declared with. A declared type outside the scalars adds a text type of its own. Both are collected
for one endpoint and merged over all of them.
-/

namespace Routewright

/-- The host type of a declared type, none if its name gives no type name. -/
def SpecType.host? (type : SpecType) : Option HostType :=
  match type.kind.host? with
  | some kind => some { kind }
  | none =>
    let name := pascal (type.name.getD "")
    if isTypeName name then some { kind := .named, name := some name } else none

/-- The host type of a declared type. -/
def SpecType.host (type : SpecType) : Except GenerationFault HostType :=
  match type.host? with
  | some h => .ok h
  | none => .error (.unmappedType type.name)

/-- The types that requests share. `wrappers` holds each wrapper once, with its hosts in the order
of conversions; `named` holds each text type of a declared name once, in order. -/
structure SharedTypes where
  wrappers : List (String × List HostType) := []
  named : List String := []
  deriving DecidableEq, Repr

namespace SharedTypes

/-- Adds host types to a wrapper. -/
def addHosts (name : String) (hosts : List HostType) (wrappers : List (String × List HostType)) :
    List (String × List HostType) :=
  let before := (Table.find? name wrappers).getD []
  Sorted.put Sorted.textBefore name
    (hosts.foldl (fun all h => Sorted.insert HostType.before h all) before) wrappers

/-- Adds what a url part of a name and host type needs. -/
def addPart (types : SharedTypes) (part : String) (host : HostType) : SharedTypes :=
  let wrapper := sharedTypeName part
  match host.kind with
  | .named =>
    let name := sharedTypeName (host.name.getD "")
    { wrappers := addHosts wrapper [{ kind := .named, name := some name }] types.wrappers
      named := Sorted.insert Sorted.textBefore name types.named }
  | _ => { types with wrappers := addHosts wrapper [host] types.wrappers }

/-- The types of both. -/
def merge (a b : SharedTypes) : SharedTypes where
  wrappers := b.wrappers.foldl (fun all w => addHosts w.1 w.2 all) a.wrappers
  named := b.named.foldl (fun all n => Sorted.insert Sorted.textBefore n all) a.named

/-- The names of all types, in order. -/
def names (types : SharedTypes) : List String :=
  Sorted.texts (types.wrappers.map Prod.fst ++ types.named)

end SharedTypes

/-- The url parts of an endpoint: those declared, then the parameters of its paths that are not. -/
def Endpoint.partNames (e : Endpoint) : List String :=
  e.parts.map Prod.fst
    ++ e.paths.flatMap fun p => p.params.filter fun name => (Table.find? name e.parts).isNone

/-- The host type of a url part; one without a declaration is plain text. -/
def Endpoint.partHost (e : Endpoint) (part : String) : Except GenerationFault HostType :=
  match Table.find? part e.parts with
  | none => .ok HostType.plain
  | some type => type.host

/-- Adds the types of url parts, one after the other. -/
def SharedTypes.ofParts (e : Endpoint) (types : SharedTypes) :
    List String → Except GenerationFault SharedTypes
  | [] => .ok types
  | part :: rest =>
    if !isTypeName (sharedTypeName part) then .error (.unusablePart part)
    else match e.partHost part with
      | .error fault => .error fault
      | .ok host => ofParts e (types.addPart part host) rest

/-- The types that the requests of an endpoint refer to. -/
def Endpoint.sharedTypes (e : Endpoint) : Except GenerationFault SharedTypes :=
  SharedTypes.ofParts e {} e.partNames

end Routewright
