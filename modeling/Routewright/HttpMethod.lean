/-!
# HTTP methods

The five methods an endpoint may declare, and the choice of one among several: the only one, else
`POST`, else the one that an explicit order ranks first, else the one declared first.
-/

namespace Routewright

/-- A method of an HTTP request. -/
inductive HttpMethod
  | get
  | post
  | put
  | delete
  | head
  deriving DecidableEq, Repr

namespace HttpMethod

/-- Every method, in the order in which they are listed. -/
def all : List HttpMethod :=
  [.get, .post, .put, .delete, .head]

/-- The name of a method. -/
def name : HttpMethod → String
  | .get => "GET"
  | .post => "POST"
  | .put => "PUT"
  | .delete => "DELETE"
  | .head => "HEAD"

/-- The method of a name, which must be spelled in capitals. -/
def ofName? (s : String) : Option HttpMethod :=
  all.find? fun m => m.name = s

/-- The distinct members of an order, each with the position of its last occurrence. -/
def ranks (order : List HttpMethod) : List (HttpMethod × Nat) :=
  order.zipIdx.foldl (fun ranked (m, i) => (ranked.filter (·.1 ≠ m)) ++ [(m, i)]) []

/-- The rank of a method in an order: the position of its last occurrence, and for a method that
does not occur the number of distinct methods that do. -/
def rank (order : List HttpMethod) (m : HttpMethod) : Nat :=
  ((ranks order).lookup m).getD (ranks order).length

/-- The first of a method and more methods among those of least rank. -/
def leastBy (rank : HttpMethod → Nat) (best : HttpMethod) : List HttpMethod → HttpMethod
  | [] => best
  | m :: rest => leastBy rank (if rank m < rank best then m else best) rest

/-- The method a request uses among those declared, none if none is declared. -/
def choose (methods : List HttpMethod) (order : Option (List HttpMethod)) : Option HttpMethod :=
  match methods with
  | [] => none
  | [m] => some m
  | m :: rest =>
    if .post ∈ m :: rest then some .post
    else match order with
      | none | some [] => some m
      | some (o :: os) => some (leastBy (rank (o :: os)) m rest)

end HttpMethod

end Routewright
