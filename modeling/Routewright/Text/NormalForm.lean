import Routewright.Text.Composed

/-!
# The composed form of texts

A letter with marks can be written as one character or as several. In the composed form characters
are put together where they can be, after the marks behind each letter have been put in order.
Characters are given by their code points.
-/

namespace Routewright.Text

/-! ## Syllables -/

/-- The first of the syllables of Korean. They are counted by their last part, then by their middle
and then by their first one. -/
def firstSyllable : Nat := 0xAC00

/-- How many syllables there are. -/
def syllableCount : Nat := 11172

/-- The parts that a syllable consists of; it may have no last one. -/
def syllableParts (n : Nat) : List Nat :=
  let i := n - firstSyllable
  [0x1100 + i / 588, 0x1161 + i % 588 / 28] ++ (if i % 28 = 0 then [] else [0x11A7 + i % 28])

/-- Whether a code point is a syllable. -/
def isSyllable (n : Nat) : Bool :=
  firstSyllable ≤ n && n < firstSyllable + syllableCount

/-- The syllable that two parts or a syllable without a last part and one make. -/
def syllable? (a b : Nat) : Option Nat :=
  if 0x1100 ≤ a && a < 0x1113 && 0x1161 ≤ b && b < 0x1176 then
    some (firstSyllable + ((a - 0x1100) * 21 + (b - 0x1161)) * 28)
  else if isSyllable a && (a - firstSyllable) % 28 = 0 && 0x11A8 ≤ b && b < 0x11C3 then
    some (a + (b - 0x11A7))
  else none

/-! ## Single characters -/

/-- The class of a mark, zero for characters that are none. -/
def markClass (n : Nat) : Nat :=
  let classes := markClassRows.filterMap fun row =>
    match row with
    | [first, last, c] => if first ≤ n && n ≤ last then some c else none
    | _ => none
  classes.headD 0

/-- The characters that a character stands for at first sight, itself if it consists of none. -/
def takenApart (n : Nat) : List Nat :=
  if isSyllable n then syllableParts n
  else
    match decompositionRows.find? fun row => row.head? = some n with
    | some (_ :: parts) => parts
    | _ => [n]

/-- The characters that a character consists of in the end. Those that it stands for may themselves
be taken apart, at most three times. -/
def decomposed (n : Nat) : List Nat :=
  ((takenApart n).flatMap takenApart).flatMap takenApart

/-- The character that two others make. -/
def composed? (a b : Nat) : Option Nat :=
  (syllable? a b).or
    ((decompositionRows.find? fun row => row.drop 1 = [a, b] && [row.headD 0] ∉ uncomposedRows).bind
      List.head?)

/-! ## Texts -/

/-- The characters behind marks that are in order by their classes. Marks of one class keep their
order. -/
def orderMarks (marks : List (Nat × Nat)) : List (Nat × Nat) → List (Nat × Nat)
  | [] => marks.mergeSort fun a b => a.2 ≤ b.2
  | m :: rest =>
    if m.2 = 0 then (marks.mergeSort fun a b => a.2 ≤ b.2) ++ m :: orderMarks [] rest
    else orderMarks (marks ++ [m]) rest

/-- A text with all its characters taken apart and its marks in order, each with its class. -/
def decomposition (text : List Nat) : List (Nat × Nat) :=
  orderMarks [] ((text.flatMap decomposed).map fun n => (n, markClass n))

/-- What a composer has written: what is before the last character that is no mark, that character,
and the marks behind it with the class of the last one. All are held last first. -/
structure Composer where
  written : List Nat := []
  base : Option Nat := none
  marks : List Nat := []
  lastClass : Nat := 0

/-- All that a composer has written, last first. -/
def Composer.all (c : Composer) : List Nat :=
  c.marks ++ c.base.toList ++ c.written

/-- A composer that has written a character of a class. A mark behind one of its class or of a
higher one stays by itself. -/
def Composer.next (c : Composer) (character : Nat × Nat) : Composer :=
  let (n, k) := character
  let free := c.marks.isEmpty || c.lastClass < k
  match if free then c.base.bind (composed? · n) else none with
  | some whole => { c with base := some whole }
  | none =>
    if k = 0 then { written := c.all, base := some n }
    else { c with marks := n :: c.marks, lastClass := k }

/-- The composed form of a text. -/
def composedForm (text : List Nat) : List Nat :=
  ((decomposition text).foldl Composer.next {}).all.reverse

/-- Whether a text is in its composed form. -/
def isComposedForm (text : List Nat) : Bool :=
  composedForm text = text

end Routewright.Text
