import Routewright.HttpMethod
import Routewright.Table

/-!
# Generation policy

The choices that shape generated code: how urls are assembled, which method wins, and which
endpoints are derived from declared ones.
-/

namespace Routewright

/-- How generated code assembles a url: by one formatting call, or by pushing pieces into a buffer
of exact size. -/
inductive Strategy
  | format
  | push
  deriving DecidableEq, Repr

/-- The label of a strategy. -/
def Strategy.label : Strategy → String
  | .format => "format"
  | .push => "push"

/-- Every strategy. -/
def Strategy.all : List Strategy :=
  [.format, .push]

/-- The strategy of a label. -/
def Strategy.ofLabel? (s : String) : Option Strategy :=
  all.find? fun x => x.label = s

/-- A rule that clones the endpoint `source` under the name `target` with a single method. -/
structure DerivedRule where
  source : String
  target : String
  method : HttpMethod := .get
  clearBody : Bool := true
  deriving DecidableEq, Repr

/-- The choices of one generation. -/
structure Policy where
  strategy : Strategy := .push
  overrides : List (String × Strategy) := []
  verbOrder : Option (List HttpMethod) := none
  derived : List DerivedRule := []
  deriving DecidableEq, Repr

/-- The strategy for the endpoint of a name. -/
def Policy.strategyFor (p : Policy) (endpoint : String) : Strategy :=
  (Table.find? endpoint p.overrides).getD p.strategy

end Routewright
