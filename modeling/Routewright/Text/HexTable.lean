/-!
# Tables of numbers

A table is written as rows of text. Its entries are parted by semicolons, and the numbers of an
entry, which are hexadecimal, by blanks.
-/

namespace Routewright.Text

/-- The value of a hexadecimal digit in capitals, none for any other character. -/
def capitalHexDigit? (c : Char) : Option Nat :=
  if '0' ≤ c && c ≤ '9' then some (c.toNat - '0'.toNat)
  else if 'A' ≤ c && c ≤ 'F' then some (c.toNat - 'A'.toNat + 10)
  else none

/-- What a reader of a table has read: the entries and the numbers of the present one, both last
first, and the number that it is in. -/
structure TableReader where
  entries : List (List Nat) := []
  numbers : List Nat := []
  number : Option Nat := none

/-- A reader behind a number. -/
def TableReader.endNumber (r : TableReader) : TableReader :=
  match r.number with
  | none => r
  | some n => { r with numbers := n :: r.numbers, number := none }

/-- A reader behind an entry. -/
def TableReader.endEntry (r : TableReader) : TableReader :=
  let r := r.endNumber
  if r.numbers.isEmpty then r
  else { entries := r.numbers.reverse :: r.entries }

/-- A reader that has read a character. -/
def TableReader.next (r : TableReader) (c : Char) : TableReader :=
  match capitalHexDigit? c with
  | some d => { r with number := some (r.number.getD 0 * 16 + d) }
  | none => if c = ';' then r.endEntry else r.endNumber

/-- A reader that has read a row. A number ends with its row. -/
def TableReader.nextRow (r : TableReader) (row : String) : TableReader :=
  (row.toList.foldl next r).endNumber

/-- The entries of a table. -/
def hexEntries (rows : List String) : List (List Nat) :=
  (rows.foldl TableReader.nextRow {}).endEntry.entries.reverse

end Routewright.Text
