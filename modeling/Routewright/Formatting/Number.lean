import Routewright.Binary64
import Routewright.Formatting.Layout

/-!
# Numbers in layouts

A number is laid out as a sign, a mark of its base, digits and what follows them. Digits can be in
groups, and zeros that fill a place between sign and digits are digits as well, so that they are
grouped too. A whole number can be written as one with a fraction; it is rounded only where it has
more digits than are asked for, an exact tie going to the even digit.
-/

namespace Routewright.Formatting

/-! ## Groups of digits -/

/-- Digits in groups of a size, both last digit first, with zeros up to a width. There is always a
digit after a separator. -/
def groupsFrom (separator : Char) (size : Nat) : Nat → List Char → Nat → List Char
  | 0, _, _ => []
  | fuel + 1, digits, width =>
    let length := min size (max (max digits.length width) 1)
    let group := digits.take length ++ List.replicate (length - digits.length) '0'
    let rest := digits.drop length
    if rest.isEmpty && width ≤ length then group
    else group ++ separator :: groupsFrom separator size fuel rest (width - length - 1)

/-- Digits in groups of a size with zeros up to a width. Every group takes a digit or a zero of the
width, so there are no more groups than these. -/
def grouped (separator : Option Char) (size : Nat) (digits : List Char) (width : Nat) : List Char :=
  match separator with
  | some c => (groupsFrom c size (digits.length + width + 1) digits.reverse width).reverse
  | none => List.replicate (width - digits.length) '0' ++ digits

/-! ## Numbers in parts -/

/-- A number that is written in parts: the mark of its base, its digits and what follows them. -/
structure Parts where
  mark : List Char := []
  digits : List Char := []
  rest : List Char := []
  deriving DecidableEq, Repr

/-- A number in parts laid out, with its digits in groups of a size. A number that is not negative
has a sign only where one is asked for. -/
def Layout.ofParts (l : Layout) (size : Nat) (n : Parts) : Except Fault (List Char) :=
  let side := l.side.getD (if l.padded then '=' else '>')
  let fill := l.fill.getD (if l.padded then '0' else ' ')
  let sign := l.sign.toList.filter (· ≠ '-')
  let others := sign.length + n.mark.length + n.rest.length
  let least := if fill = '0' && side = '=' then l.width - others else 0
  if widest < l.width then .error .tooWide
  else
    let digits := if n.digits.isEmpty then [] else grouped l.separator size n.digits least
    let missing := l.width - (others + digits.length)
    let before := if side = '>' then missing else if side = '^' then missing / 2 else 0
    let inside := if side = '=' then missing else 0
    .ok (List.replicate before fill ++ sign ++ n.mark ++ List.replicate inside fill ++ digits
      ++ n.rest ++ List.replicate (missing - before - inside) fill)

/-- A whole number in a base. -/
def wholeParts (l : Layout) (letter : Char) (base n : Nat) : Parts :=
  { mark := if l.long && base ≠ 10 then ['0', letter] else []
    digits := (Nat.toDigits base n).map fun c => if letter = 'X' then c.toUpper else c }

/-! ## Fractions -/

/-- The decimal digits of a number rounded to `limit` digits, and how many of all its digits stand
before the point. -/
def rounded (limit n : Nat) : List Char × Nat :=
  let digits := Nat.toDigits 10 n
  if digits.length ≤ limit then (digits, digits.length)
  else
    let m := Binary64.roundDiv n (Nat.pow 10 (digits.length - limit))
    let kept := Nat.toDigits 10 m
    (kept.take limit, digits.length + (kept.length - limit))

/-- The digits of a fraction after a point, which is left out if there are none, unless the longer
way is asked for. -/
def fractionText (long : Bool) (digits : List Char) : List Char :=
  if digits.isEmpty && !long then [] else '.' :: digits

/-- Digits with zeros behind them up to a length. -/
def extended (length : Nat) (digits : List Char) : List Char :=
  digits ++ List.replicate (length - digits.length) '0'

/-- Digits without the zeros at their end. -/
def trimmed (digits : List Char) : List Char :=
  (digits.reverse.dropWhile (· = '0')).reverse

/-- The exponent of ten, in two digits at least. -/
def exponentText (letter : Char) (exponent : Nat) : List Char :=
  letter :: '+' :: (if exponent < 10 then ['0'] else []) ++ Nat.toDigits 10 exponent

/-- Digits as a number with one digit before the point and an exponent. -/
def scientificParts (long : Bool) (letter : Char) (digits : List Char) (before : Nat) : Parts :=
  { digits := digits.take 1
    rest := fractionText long (digits.drop 1) ++ exponentText letter (before - 1) }

/-- A whole number with some zeros after the point. -/
def fixedParts (l : Layout) (precision n : Nat) (ending : List Char) : Parts :=
  { digits := Nat.toDigits 10 n
    rest := fractionText l.long (List.replicate precision '0') ++ ending }

/-- A number in some digits, with an exponent if these are too few to reach its point. -/
def generalParts (l : Layout) (letter : Char) (precision n : Nat) : Parts :=
  let limit := max precision 1
  let (digits, before) := rounded limit n
  let digits := if l.long then extended limit digits else trimmed digits
  if limit < before then scientificParts l.long letter digits before
  else
    let digits := extended before digits
    { digits := digits.take before, rest := fractionText l.long (digits.drop before) }

/-- The greatest precision of a fraction. -/
def finest : Nat := Nat.pow 2 31 - 1

/-- A number that is not negative laid out. A whole number has no precision, and a character has
neither a sign nor a longer way. -/
def Layout.ofNumber (l : Layout) (n : Nat) : Except Fault (List Char) :=
  let whole (letter : Char) (base : Nat) : Except Fault (List Char) :=
    if l.precision.isSome || l.unsignedZero then .error .malformed
    else l.ofParts (if base = 10 then 3 else 4) (wholeParts l letter base n)
  let fraction (parts : Nat → Parts) : Except Fault (List Char) :=
    let precision := l.precision.getD 6
    if finest < precision then .error .malformed
    else if widest < precision then .error .tooWide
    else l.ofParts 3 (parts precision)
  match l.style.getD 'd' with
  | 'd' | 'n' => whole 'd' 10
  | 'b' => whole 'b' 2
  | 'o' => whole 'o' 8
  | 'x' => whole 'x' 16
  | 'X' => whole 'X' 16
  | 'c' =>
    if l.precision.isSome || l.unsignedZero || l.sign.isSome || l.long then .error .malformed
    else if 0x110000 ≤ n then .error (.noCharacter n)
    else l.ofParts 3 { rest := [Char.ofNat n] }
  | 'f' | 'F' => fraction fun p => fixedParts l p n []
  | '%' => fraction fun p => fixedParts l p (n * 100) ['%']
  | 'e' | 'E' => fraction fun p =>
    let (digits, before) := rounded (p + 1) n
    scientificParts l.long (l.style.getD 'e') (extended (p + 1) digits) before
  | 'g' => fraction (generalParts l 'e' · n)
  | 'G' => fraction (generalParts l 'E' · n)
  | _ => .error .malformed

end Routewright.Formatting
