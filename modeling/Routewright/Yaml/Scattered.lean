import Routewright.Value

/-!
# The order of sets

A set has its items in the order of a table into which they are scattered by number. Equal numbers
of any kind share a scatter number: it is the residue by a prime in which a fraction has one as
well. An item whose place is taken goes to one of the next places, or jumps on. Items that are no
numbers have no fixed place, and a set with such an item keeps the order in which it was written.
-/

namespace Routewright.Yaml

/-- The prime that scatter numbers are residues by. Two to the 61 is one by it. -/
def scatterPrime : Nat := 0x1FFFFFFFFFFFFFFF

/-- A residue with a sign in 64 bits. The number minus one stands for a failure elsewhere, so minus
two is taken for it. -/
def scatterWord (negative : Bool) (residue : Nat) : Nat :=
  if negative && residue ≠ 0 then 0x10000000000000000 - max residue 2 else residue

/-- The scatter number of a number. -/
def scatter? : Value → Option Nat
  | .bool b => some b.toNat
  | .int n => some (scatterWord (n < 0) (n.natAbs % scatterPrime))
  | .float (.infinite negative) => some (scatterWord negative 314159)
  | .float (.finite negative m e) =>
    some (scatterWord negative (m * Nat.pow 2 (e % 61).toNat % scatterPrime))
  | _ => none

/-- The size of the table for some items: at least eight places, more than twice as many as items
if there are more than four of these, and a power of two. -/
def tableSize (count : Nat) : Nat :=
  if count ≤ 4 then 8 else max 8 (Nat.pow 2 (Nat.log2 (2 * count) + 1))

/-- The first free place of those that are looked at together: ten in a row if they are all in the
table, or a single one. -/
def freeNear? (table : Array (Option Value)) (i : Nat) : Option Nat :=
  (if i + 9 < table.size then List.range' i 10 else [i]).find? fun j => (table.getD j none).isNone

/-- The first free place on the way of jumps from a place. When no bits are left to jump by, the
jumps go round the whole table. -/
def freeFrom? (table : Array (Option Value)) : Nat → Nat → Nat → Option Nat
  | 0, _, _ => none
  | fuel + 1, i, bits =>
    (freeNear? table i).or
      (freeFrom? table fuel ((i * 5 + 1 + bits / 32) % table.size) (bits / 32))

/-- A table with one item more. -/
def put (table : Array (Option Value)) (item : Value × Nat) : Array (Option Value) :=
  match freeFrom? table (table.size + 16) (item.2 % table.size) item.2 with
  | some i => table.setIfInBounds i (some item.1)
  | none => table

/-- Different items in the order of their set. -/
def scattered (items : List Value) : List Value :=
  match items.mapM fun v => (scatter? v).map (v, ·) with
  | some numbered =>
    (numbered.foldl put (Array.replicate (tableSize items.length) none)).toList.filterMap id
  | none => items

end Routewright.Yaml
