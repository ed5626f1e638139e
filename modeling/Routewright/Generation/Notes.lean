import Routewright.Generation

/-!
# Notes on a generation

What is noted in the course of a generation, for finding errors. The notes of a generation that
fails are those up to the failure.
-/

namespace Routewright

/-- What is noted while endpoints are normalized. -/
def normalizationNotes (order : Option (List HttpMethod)) : List Endpoint → List String
  | [] => []
  | e :: rest =>
    match e.selectMethod order with
    | .error _ => []
    | .ok _ => e.collapseNote?.toList ++ normalizationNotes order rest

/-- What is noted about the requests of an endpoint. -/
def requestNote (policy : Policy) (e : Endpoint) (requests : List Request) : String :=
  e.name ++ ": " ++ toString requests.length ++ " request descriptor(s), strategy "
    ++ (policy.strategyFor e.name).label

/-- What is noted while normalized endpoints are turned into requests. -/
def requestNotes (policy : Policy) : List Endpoint → List String
  | [] => []
  | e :: rest =>
    match e.requests policy with
    | .error _ => []
    | .ok (requests, _) =>
      requestNote policy e requests :: match Request.items requests with
        | .error _ => []
        | .ok _ => requestNotes policy rest

/-- What is noted about a generation that succeeds. -/
def Generated.note (g : Generated) : String :=
  "Generated " ++ toString g.endpoints.length ++ " endpoint(s), "
    ++ toString g.types.wrappers.length ++ " wrapper type(s), " ++ toString g.types.named.length
    ++ " opaque type(s)"

/-- What is noted in the course of a generation. -/
def generationNotes (endpoints : List Endpoint) (policy : Policy) : List String :=
  match DerivedRule.applyAll endpoints policy.derived with
  | .error _ => []
  | .ok all =>
    normalizationNotes policy.verbOrder all ++ match normalize endpoints policy with
      | .error _ => []
      | .ok normalized =>
        requestNotes policy normalized ++ match generate endpoints policy with
          | .error _ => []
          | .ok g => [g.note]

end Routewright
