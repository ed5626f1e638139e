/-!
# Increasing lists

Lists kept in strictly increasing order by insertion, as sets of items and as tables of keys with
their values. The order is a comparison `before`; two items neither of which is before the other
count as one.
-/

namespace Routewright.Sorted

variable {α β : Type}

/-- Inserts an item that is not yet there. -/
def insert (before : α → α → Bool) (x : α) : List α → List α
  | [] => [x]
  | y :: ys =>
    if before x y then x :: y :: ys
    else if before y x then y :: insert before x ys
    else y :: ys

/-- The items of a list in increasing order, each once. -/
def ofList (before : α → α → Bool) (items : List α) : List α :=
  items.foldl (fun sorted x => insert before x sorted) []

/-- Writes a value to a key, in place of what the key held. -/
def put (before : α → α → Bool) (key : α) (value : β) : List (α × β) → List (α × β)
  | [] => [(key, value)]
  | (k, v) :: rest =>
    if before key k then (key, value) :: (k, v) :: rest
    else if before k key then (k, v) :: put before key value rest
    else (key, value) :: rest

/-- The order of texts by code point. -/
def textBefore (s t : String) : Bool :=
  s < t

/-- The order of rows of texts: by the first text in which they differ, a shorter row before those
it begins. -/
def rowBefore (s t : List String) : Bool :=
  s < t

/-- Texts in increasing order, each once. -/
def texts (items : List String) : List String :=
  ofList textBefore items

end Routewright.Sorted
