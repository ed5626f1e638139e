import Routewright.Config.Policy
import Routewright.Description.Extraction
import Routewright.Failure
import Routewright.Generation
import Routewright.Target

/-!
# Sessions

A session holds endpoints and a policy and changes them step by step. A step that fails leaves both
as they were.
-/

namespace Routewright

/-- The state of a session. -/
structure Session where
  endpoints : List Endpoint := []
  policy : Policy := {}
  deriving Repr

namespace Session

/-- Adds the endpoints of a document, whatever the names of those before. -/
def add (s : Session) (origin text : String) (hint : Notation) : Except Problem Session := do
  let document ← (Document.parse Document.usualRoom origin text hint).mapError Problem.ofDescription
  let more ← (Description.endpoints [(origin, document)]).mapError Problem.ofDescription
  return { s with endpoints := s.endpoints ++ more }

/-- Adds the endpoint that a rule derives. -/
def derive (s : Session) (rule : DerivedRule) : Except Problem Session := do
  let derived ← (rule.apply s.endpoints).mapError fun fault => .failure (.derivation fault)
  return { s with endpoints := s.endpoints ++ [derived] }

/-- Changes every endpoint of a name. -/
def update (s : Session) (name : String) (change : Endpoint → Except Problem Endpoint) :
    Except Problem Session := do
  let endpoints ← s.endpoints.mapM fun e => if e.name = name then change e else .ok e
  return { s with endpoints }

/-- Chooses the method of every endpoint of a name. -/
def selectMethod (s : Session) (name : String) (order : Option (List HttpMethod)) :
    Except Problem Session :=
  s.update name fun e => (e.selectMethod order).mapError fun error => .failure (.generation error)

/-- Collapses the paths of every endpoint of a name. -/
def collapsePaths (s : Session) (name : String) : Except Problem Session :=
  s.update name fun e => .ok e.collapsePaths

/-- Normalizes the endpoints under the policy. -/
def normalize (s : Session) : Except Problem Session := do
  let endpoints ← (Routewright.normalize s.endpoints s.policy).mapError Problem.ofGeneration
  return { s with endpoints }

/-- Removes every endpoint of a name. -/
def drop (s : Session) (name : String) : Session :=
  { s with endpoints := s.endpoints.filter fun e => e.name ≠ name }

/-- The source text for the endpoints, with its opening comment if `marked`. -/
def source (s : Session) (target : String) (marked : Bool) : Except Problem String := do
  let generated ← (generate s.endpoints s.policy).mapError Problem.ofGeneration
  match Target.ofLabel? target with
  | some t => return t.source generated.code marked
  | none => throw (.failure (.usage (Target.unknownMessage target)))

end Session

end Routewright
