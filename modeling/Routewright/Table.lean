/-!
# Ordered tables

A table is a list of keys with their values, in the order in which the keys were first written.
Writing to a key that is there keeps its place and changes its value.
-/

namespace Routewright.Table

variable {α β : Type} [DecidableEq α]

/-- Writes a value to a key. -/
def put (key : α) (value : β) : List (α × β) → List (α × β)
  | [] => [(key, value)]
  | (k, v) :: rest => if k = key then (k, value) :: rest else (k, v) :: put key value rest

/-- The value of a key. -/
def find? (key : α) : List (α × β) → Option β
  | [] => none
  | (k, v) :: rest => if k = key then some v else find? key rest

/-- The table of entries written one after the other. -/
def ofList (entries : List (α × β)) : List (α × β) :=
  entries.foldl (fun table e => put e.1 e.2 table) []

/-- The keys of a table in order. -/
def keys (table : List (α × β)) : List α :=
  table.map Prod.fst

/-- Adds an item to the end of a list that lacks it. -/
def insert (item : α) (items : List α) : List α :=
  if item ∈ items then items else items ++ [item]

/-- The items of a list without repetition, in the order in which they first occur. -/
def distinct (items : List α) : List α :=
  items.foldl (fun seen item => insert item seen) []

end Routewright.Table
