import Routewright.Text.Lines
import Routewright.Text.Numeral

/-!
# Numeric addresses

The two ways of naming a machine by numbers: four decimal numbers between dots, or eight hexadecimal
ones between colons. Of the latter, one run of zeros may be left out, and the last two may be
written as four decimal numbers.
-/

namespace Routewright.Address

/-! ## Four numbers -/

/-- Whether a text is a number below 256 without needless zeros. -/
def isOctet (cs : List Char) : Bool :=
  !cs.isEmpty && cs.length ≤ 3 && cs.all Char.isDigit && (cs.head? ≠ some '0' || cs = ['0'])
    && (Text.digitsIn? 10 0 cs).any (· ≤ 255)

/-- Whether a text has the look of four numbers: four runs of digits between dots. -/
def looksLikeNumbers (cs : List Char) : Bool :=
  let parts := Text.pieces '.' cs
  parts.length = 4 && parts.all fun part => !part.isEmpty && part.all Char.isDigit

/-- Whether a text is four numbers between dots. -/
def isFourNumbers (cs : List Char) : Bool :=
  let parts := Text.pieces '.' cs
  parts.length = 4 && parts.all isOctet

/-! ## Eight numbers -/

/-- Whether a text is a number of at most four hexadecimal digits. -/
def isHextet (cs : List Char) : Bool :=
  !cs.isEmpty && cs.length ≤ 4 && cs.all fun c => (Text.hexDigit? c).isSome

/-- The parts between colons, with two parts in place of four decimal numbers at the end; none if
those are no such numbers. -/
def hextetParts? (cs : List Char) : Option (List (List Char)) :=
  let parts := Text.pieces ':' cs
  match parts.getLast? with
  | none => none
  | some last =>
    if parts.length < 3 then none
    else if !last.contains '.' then some parts
    else if isFourNumbers last then some (parts.dropLast ++ [['0'], ['0']])
    else none

/-- Whether parts on one side of a gap are numbers. The part at the far end may be empty if it is
the only one, which is how an end of the whole is written. -/
def isSide (parts : List (List Char)) : Bool :=
  parts = [[]] || parts.all isHextet

/-- How many numbers the parts on one side of a gap write. -/
def sideCount (parts : List (List Char)) : Nat :=
  (parts.filter fun part => !part.isEmpty).length

/-- Whether parts are eight numbers, or fewer with a gap between two of them. -/
def areHextets (parts : List (List Char)) : Bool :=
  if parts.length = 8 && parts.all isHextet then true
  else
    match (parts.drop 1).dropLast.idxOf? [] with
    | none => false
    | some i =>
      let before := parts.take (i + 1)
      let after := parts.drop (i + 2)
      isSide before && isSide after && sideCount before + sideCount after < 8

/-- Whether a text is eight numbers between colons. A zone may follow behind a percent sign. -/
def isEightNumbers (cs : List Char) : Bool :=
  let numbers := cs.takeWhile (· ≠ '%')
  let zone := cs.drop numbers.length
  (zone.isEmpty || (1 < zone.length && !(zone.drop 1).contains '%'))
    && !cs.contains '/' && (hextetParts? numbers).any areHextets

end Routewright.Address
