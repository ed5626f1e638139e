import Routewright.Formatting
import Routewright.GenerationError
import Routewright.Policy
import Routewright.Template

/-!
# Url builders

A url builder turns a base address and one value for each hole of a path into a url, either by
filling a formatting template or by pushing pieces in order. A builder that pushes knows beforehand
how long the url will be: `capacity` adds up what `render` puts together.
-/

namespace Routewright

/-- A way to assemble a url. -/
inductive UrlBuilder
  | format (template : String) (params : List String)
  | push (segments : List Segment) (params : List String)
  deriving DecidableEq, Repr

/-- The name of the base address among the parameters of a builder. -/
def baseParam : String := "base"

/-- Segments with their parameters renamed in order. -/
def Segment.rename : List Segment → List String → List Segment
  | [], _ => []
  | .literal text :: rest, names => .literal text :: Segment.rename rest names
  | .param _ :: rest, name :: names => .param name :: Segment.rename rest names
  | .param name :: rest, [] => .param name :: Segment.rename rest []

/-- The number of occurrences of `{}` in a text, none overlapping another. -/
def countHoles : List Char → Nat
  | '{' :: '}' :: cs => countHoles cs + 1
  | _ :: cs => countHoles cs
  | [] => 0

/-- The value bound to a name, the last one if there are several. -/
def boundValue (name : String) : List (String × String) → Option String
  | [] => none
  | (n, v) :: rest =>
    match boundValue name rest with
    | some w => some w
    | none => if n = name then some v else none

/-- Why a url cannot be rendered. -/
inductive RenderFault
  | formatting (fault : Formatting.Fault)
  | unbound (name : String)
  deriving DecidableEq, Repr

/-- A summand of a capacity: the length of a value, or of a literal text. -/
inductive CapacityTerm
  | value (name : String)
  | literal (length : Nat)
  deriving DecidableEq, Repr

namespace UrlBuilder

/-- The parameters of a builder in the order in which values are given. -/
def params : UrlBuilder → List String
  | .format _ params => params
  | .push _ params => params

/-- The builder for a path. Its parameters are called by `names`, or as in the template. -/
def build (path : UrlPath) (strategy : Strategy) (names : Option (List String)) :
    Except GenerationFault UrlBuilder :=
  let holes := path.params
  let names := names.getD holes
  if names.length ≠ holes.length then
    .error (.holeCount path.template holes.length names.length)
  else
    let segments := Segment.rename path.segments names
    match strategy with
    | .format => .ok (.format (holeTemplate segments) names)
    | .push => .ok (.push segments names)

/-- Checks that a builder binds one parameter for each hole. -/
def validate : UrlBuilder → Except GenerationFault Unit
  | .format template params =>
    let holes : Int := (countHoles template.toList : Int) - 1
    if holes ≠ params.length then .error (.formatHoles template holes params.length) else .ok ()
  | .push segments params =>
    let holes := (Segment.params segments).length
    if holes ≠ params.length then .error (.pushHoles holes params.length) else .ok ()

/-- The summands that segments add to a capacity; an empty literal adds none. -/
def segmentTerms : List Segment → List CapacityTerm
  | [] => []
  | .literal text :: rest =>
    if text.isEmpty then segmentTerms rest else .literal text.length :: segmentTerms rest
  | .param name :: rest => .value name :: segmentTerms rest

/-- The summands of the capacity for segments, the base address first. -/
def capacityTerms (segments : List Segment) : List CapacityTerm :=
  .value baseParam :: segmentTerms segments

/-- The sum of terms under a binding of names to values. -/
def sumTerms (bound : List (String × String)) : List CapacityTerm → Except RenderFault Nat
  | [] => .ok 0
  | .literal n :: rest => (sumTerms bound rest).map (n + ·)
  | .value name :: rest =>
    match boundValue name bound with
    | none => .error (.unbound name)
    | some v => (sumTerms bound rest).map (v.length + ·)

/-- The number of characters that pushing segments will put together. -/
def capacity (segments : List Segment) (params : List String) (base : String)
    (values : List String) : Except RenderFault Nat :=
  sumTerms (params.zip values ++ [(baseParam, base)]) (capacityTerms segments)

/-- Segments as text under a binding of names to values. -/
def fill (bound : List (String × String)) : List Segment → Except RenderFault String
  | [] => .ok ""
  | .literal text :: rest => (fill bound rest).map (text ++ ·)
  | .param name :: rest =>
    match boundValue name bound with
    | none => .error (.unbound name)
    | some v => (fill bound rest).map (v ++ ·)

/-- The url for a base address and values. -/
def render (builder : UrlBuilder) (base : String) (values : List String) :
    Except RenderFault String :=
  match builder with
  | .format template _ =>
    (Formatting.format template (base :: values)).mapError RenderFault.formatting
  | .push segments params => (fill (params.zip values) segments).map (base ++ ·)

end UrlBuilder

end Routewright
