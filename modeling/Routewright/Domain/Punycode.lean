/-!
# Punycode

Labels of domain names written in ASCII. The characters of a label that are not in ASCII become a
row of numbers, each of which says how far the next insertion is from the one before, counted over
all places and all code points. A number is written in digits to base 36, the least first, and what
a digit may be before the number goes on adapts to the numbers so far. Characters are given by their
code points.
-/

namespace Routewright.Domain.Punycode

/-- The character of a digit. -/
def digitChar (d : Nat) : Nat :=
  if d < 26 then 'a'.toNat + d else '0'.toNat + d - 26

/-- The digit of a character. -/
def digit? (n : Nat) : Option Nat :=
  if 'a'.toNat ≤ n && n ≤ 'z'.toNat then some (n - 'a'.toNat)
  else if 'A'.toNat ≤ n && n ≤ 'Z'.toNat then some (n - 'A'.toNat)
  else if '0'.toNat ≤ n && n ≤ '9'.toNat then some (n - '0'.toNat + 26)
  else none

/-- The least digit at a position with which a number goes on. -/
def threshold (position bias : Nat) : Nat :=
  max 1 (min 26 (36 * (position + 1) - bias))

/-- A number brought down to 455 by divisions, with what the divisions add to the bias. -/
def settle (bias delta : Nat) : Nat × Nat :=
  if h : 455 < delta then settle (bias + 36) (delta / 35) else (bias, delta)
termination_by delta
decreasing_by exact Nat.div_lt_self (by omega) (by omega)

/-- The bias after a number, with which the label has `count` characters. -/
def adapt (delta : Nat) (isFirst : Bool) (count : Nat) : Nat :=
  let scaled := if isFirst then delta / 700 else delta / 2
  let (bias, settled) := settle 0 (scaled + scaled / count)
  bias + 36 * settled / (settled + 38)

theorem threshold_pos (position bias : Nat) : 1 ≤ threshold position bias := by
  unfold threshold
  omega

/-! ## Writing -/

/-- The digits of a number from a position on. -/
def digits (bias position n : Nat) : List Nat :=
  let t := threshold position bias
  if h : n < t then [digitChar n]
  else digitChar (t + (n - t) % (36 - t)) :: digits bias (position + 1) ((n - t) / (36 - t))
termination_by n
decreasing_by
  have := threshold_pos position bias
  exact Nat.lt_of_le_of_lt (Nat.div_le_self _ _) (by omega)

/-- What a writer has written: the characters last first, the distance from the last insertion, the
bias, and how many characters of the label are accounted for. -/
structure Writer where
  written : List Nat := []
  distance : Nat := 0
  bias : Nat := 72
  done : Nat
  isFirst : Bool := true

/-- A writer that has passed a character of the label while code point `n` is inserted. -/
def Writer.pass (n : Nat) (w : Writer) (c : Nat) : Writer :=
  if c < n then { w with distance := w.distance + 1 }
  else if c = n then
    { written := (digits w.bias 0 w.distance).reverse ++ w.written
      distance := 0
      bias := adapt w.distance w.isFirst (w.done + 1)
      done := w.done + 1
      isFirst := false }
  else w

/-- A writer that has inserted some code points in rising order, the next of which is at least
`next`. -/
def Writer.insertAll (label : List Nat) (w : Writer) (next : Nat) : List Nat → Writer
  | [] => w
  | n :: rest =>
    let reached := { w with distance := w.distance + (n - next) * (w.done + 1) }
    let passed := label.foldl (Writer.pass n) reached
    insertAll label { passed with distance := passed.distance + 1 } (n + 1) rest

/-- A label in ASCII. -/
def encode (label : List Nat) : List Nat :=
  let basic := label.filter (· < 0x80)
  let others := ((label.filter (0x80 ≤ ·)).mergeSort (· ≤ ·)).eraseReps
  let written := (Writer.insertAll label { done := basic.length } 0x80 others).written.reverse
  (if basic.isEmpty then [] else basic ++ ['-'.toNat]) ++ written

/-! ## Reading -/

/-- What a reader has read: the label so far, the last code point and the place after it, and of the
number that is being read its value so far, the weight and the position of its next digit. -/
structure Reader where
  label : List Nat
  point : Nat := 0x80
  place : Nat := 0
  bias : Nat := 72
  isFirst : Bool := true
  value : Nat := 0
  weight : Nat := 1
  position : Nat := 0

/-- The code point of the next insertion, that many places on. -/
def Reader.nextPoint (r : Reader) (delta : Nat) : Nat :=
  r.point + (r.place + delta) / (r.label.length + 1)

/-- A reader that has read a whole number and inserted a code point. -/
def Reader.insert (r : Reader) (delta point : Nat) : Reader :=
  let count := r.label.length + 1
  let place := (r.place + delta) % count
  { label := r.label.take place ++ point :: r.label.drop place
    point
    place := place + 1
    bias := adapt delta r.isFirst count
    isFirst := false }

/-- A reader that has read a whole number. There is no character above the last code point. -/
def Reader.insert? (r : Reader) (delta : Nat) : Option Reader :=
  if 0x10FFFF < r.nextPoint delta then none else some (r.insert delta (r.nextPoint delta))

/-- A reader that has read a digit. -/
def Reader.digit? (r : Reader) (d : Nat) : Option Reader :=
  let t := threshold r.position r.bias
  let value := r.value + d * r.weight
  if d < t then r.insert? value
  else some { r with value, weight := r.weight * (36 - t), position := r.position + 1 }

/-- The label at the end of some digits, none if they end inside a number. -/
def Reader.run (r : Reader) : List Nat → Option (List Nat)
  | [] => if r.position = 0 then some r.label else none
  | c :: cs =>
    match Punycode.digit? c with
    | none => none
    | some d =>
      match r.digit? d with
      | none => none
      | some r => r.run cs

/-- The label at the end of some digits, as far as they can be read. Beyond the last code point a
question mark is inserted, and counting goes on from there. -/
def Reader.runOn (r : Reader) : List Nat → List Nat
  | [] => r.label
  | c :: cs =>
    match Punycode.digit? c with
    | none => r.label
    | some d =>
      let t := threshold r.position r.bias
      let value := r.value + d * r.weight
      if d < t then
        let point := r.nextPoint value
        (r.insert value (if 0x10FFFF < point then '?'.toNat else point)).runOn cs
      else
        Reader.runOn { r with value, weight := r.weight * (36 - t), position := r.position + 1 } cs

/-- The two parts of a text in ASCII: what is before the last hyphen and stands for itself, and the
digits behind it. -/
def parts (text : List Nat) : List Nat × List Nat :=
  let digits := (text.reverse.takeWhile (· ≠ '-'.toNat)).reverse
  (text.take (text.length - digits.length - 1), digits)

/-- The label that a text in ASCII stands for. -/
def decode (text : List Nat) : Option (List Nat) :=
  let (basic, digits) := parts text
  Reader.run { label := basic } digits

end Routewright.Domain.Punycode
