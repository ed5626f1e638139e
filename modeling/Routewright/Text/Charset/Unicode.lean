import Routewright.Text.ByteReader
import Routewright.Text.Utf8

/-!
# Charsets of all characters

The charsets that write every code point: in bytes, in pairs or quadruples of bytes, or in ASCII
with digits to base 64. A pair or a quadruple may start with either byte.
-/

namespace Routewright.Text

/-- Which of the bytes of a number comes first. -/
inductive ByteOrder
  | little
  | big
  deriving DecidableEq, Repr

/-- The character of a code point, none for halves of characters and for numbers beyond the last
one. -/
def char? (n : Nat) : Option Char :=
  if n.isValidChar then some (Char.ofNat n) else none

/-- A code point that is half of a character and stands by itself is kept as this one, which no
notation allows. -/
def loneHalf : Char := Char.ofNat 0xFFFE

/-! ## One byte or more -/

/-- How many of some bytes continue a character, at most so many. The first one is in a range. -/
def continuing (low high : UInt8) : Nat → List UInt8 → List UInt8
  | 0, _ => []
  | _, [] => []
  | n + 1, b :: rest => if low ≤ b && b ≤ high then b :: continuing 0x80 0xBF n rest else []

/-- A piece of UTF-8. A byte that does not continue a character starts the next piece. -/
def nextUtf8 : Unit → List UInt8 → Piece Unit
  | _, [] => .unfinished
  | _, b :: rest =>
    if b < 0x80 then .chars [Char.ofNat b.toNat] 1 ()
    else match utf8Shape? b with
      | none => .nothing 1
      | some (low, high, count) =>
        let more := continuing low high count rest
        if more.length = count then
          let value := more.foldl (fun n c => n * 64 + (c &&& 0x3F).toNat) (utf8Payload b count)
          .chars [Char.ofNat value] (1 + count) ()
        else if more.length = rest.length then .unfinished
        else .nothing (1 + more.length)

/-! ## Two bytes or four -/

/-- The number that two bytes write. -/
def ByteOrder.pair : ByteOrder → UInt8 → UInt8 → Nat
  | .little, a, b => b.toNat * 0x100 + a.toNat
  | .big, a, b => a.toNat * 0x100 + b.toNat

/-- The number that four bytes write. -/
def ByteOrder.quad (order : ByteOrder) (a b c d : UInt8) : Nat :=
  match order with
  | .little => order.pair c d * 0x10000 + order.pair a b
  | .big => order.pair a b * 0x10000 + order.pair c d

/-- Whether a number is the first half of a character. -/
def isFirstHalf (n : Nat) : Bool :=
  0xD800 ≤ n && n < 0xDC00

/-- Whether a number is the second half of a character. -/
def isSecondHalf (n : Nat) : Bool :=
  0xDC00 ≤ n && n < 0xE000

/-- The character of two halves. -/
def joined (first second : Nat) : Char :=
  Char.ofNat (0x10000 + (first - 0xD800) * 0x400 + (second - 0xDC00))

/-- A piece of UTF-16. -/
def nextUtf16 (order : ByteOrder) : Unit → List UInt8 → Piece Unit
  | _, a :: b :: rest =>
    let n := order.pair a b
    if isFirstHalf n then
      match rest with
      | c :: d :: _ =>
        if isSecondHalf (order.pair c d) then .chars [joined n (order.pair c d)] 4 ()
        else .nothing 2
      | _ => .unfinished
    else if isSecondHalf n then .nothing 2
    else .chars [Char.ofNat n] 2 ()
  | _, _ => .unfinished

/-- A piece of UTF-32. -/
def nextUtf32 (order : ByteOrder) : Unit → List UInt8 → Piece Unit
  | _, a :: b :: c :: d :: _ =>
    .ofChars? ((char? (order.quad a b c d)).map ([·])) 4 4 ()
  | _, _ => .unfinished

/-! ## Digits to base 64 -/

/-- The value of a digit to base 64. -/
def digit64? (b : UInt8) : Option Nat :=
  if 0x41 ≤ b && b ≤ 0x5A then some (b.toNat - 0x41)
  else if 0x61 ≤ b && b ≤ 0x7A then some (b.toNat - 0x47)
  else if 0x30 ≤ b && b ≤ 0x39 then some (b.toNat + 4)
  else if b = 0x2B then some 62
  else if b = 0x2F then some 63
  else none

/-- What is left of digits behind whole numbers of sixteen bits: how many bits, and their value;
and the first half of a character, if the last number was one. -/
structure Shift where
  bits : Nat := 0
  value : Nat := 0
  half : Option Nat := none

/-- Whether digits may end here: no character has begun, and what is left is padding. -/
def Shift.isEnd (s : Shift) : Bool :=
  s.bits < 6 && s.value = 0

/-- Where a reader of UTF-7 is: in ASCII, behind the sign that starts digits, or in digits. -/
inductive Utf7Mode
  | plain
  | opened
  | shifted (s : Shift)

/-- A reader of UTF-7, with the characters so far, last first. -/
structure Utf7Reader where
  chars : List (Option Char) := []
  mode : Utf7Mode := .plain

namespace Utf7Reader

/-- A reader that has written something and is in ASCII again. -/
def write (r : Utf7Reader) (cs : List (Option Char)) : Utf7Reader :=
  { chars := cs.reverse ++ r.chars }

/-- A reader in ASCII that has read a byte. -/
def nextPlain (r : Utf7Reader) (b : UInt8) : Utf7Reader :=
  if b = 0x2B then { r with mode := .opened }
  else r.write [if b < 0x80 then some (Char.ofNat b.toNat) else none]

/-- A reader that has read a number of sixteen bits. -/
def number (r : Utf7Reader) (s : Shift) (n : Nat) : Utf7Reader :=
  match s.half with
  | some first =>
    if isSecondHalf n then
      { chars := some (joined first n) :: r.chars, mode := .shifted { s with half := none } }
    else if isFirstHalf n then
      { chars := some loneHalf :: r.chars, mode := .shifted { s with half := some n } }
    else
      { chars := some ((char? n).getD loneHalf) :: some loneHalf :: r.chars
        mode := .shifted { s with half := none } }
  | none =>
    if isFirstHalf n then { r with mode := .shifted { s with half := some n } }
    else { chars := some ((char? n).getD loneHalf) :: r.chars, mode := .shifted s }

/-- A reader that has read a digit. -/
def digit (r : Utf7Reader) (s : Shift) (d : Nat) : Utf7Reader :=
  let bits := s.bits + 6
  let value := s.value * 64 + d
  if bits < 16 then { r with mode := .shifted { s with bits, value } }
  else
    let unit := Nat.pow 2 (bits - 16)
    r.number { s with bits := bits - 16, value := value % unit } (value / unit)

/-- A reader that has read a byte behind digits. -/
def leave (r : Utf7Reader) (s : Shift) (b : UInt8) : Utf7Reader :=
  if !s.isEnd then r.write [none]
  else
    let r := r.write (if s.half.isSome && b < 0x80 && b ≠ 0x2B then [some loneHalf] else [])
    if b = 0x2D then r else r.nextPlain b

/-- A reader that has read a byte. -/
def next (r : Utf7Reader) (b : UInt8) : Utf7Reader :=
  match r.mode, digit64? b with
  | .plain, _ => r.nextPlain b
  | .opened, some d => r.digit {} d
  | .opened, none => r.write [if b = 0x2D then some '+' else none]
  | .shifted s, some d => r.digit s d
  | .shifted s, none => r.leave s b

/-- The characters at the end of the bytes. -/
def finish (r : Utf7Reader) : List (Option Char) :=
  match r.mode with
  | .shifted s => (if s.isEnd && s.half.isNone then r else r.write [none]).chars.reverse
  | _ => r.chars.reverse

end Utf7Reader

/-- What bytes in UTF-7 stand for. -/
def utf7Transcript (bytes : List UInt8) : Transcript :=
  { chars := (bytes.foldl Utf7Reader.next {}).finish }

end Routewright.Text
