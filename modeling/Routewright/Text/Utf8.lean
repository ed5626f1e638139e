/-!
# Characters of bytes

Reading bytes as UTF-8 text. The reader names the first place where they are no such text: a byte
that no character starts with, a byte that does not continue the character before it, or an end in
the middle of a character.
-/

namespace Routewright.Text

/-- What is wrong with bytes from an offset on. -/
inductive Utf8Fault
  | badStart (offset : Nat) (byte : UInt8)
  /-- The character of `length` bytes so far does not go on with the next byte. -/
  | badContinuation (offset : Nat) (byte : UInt8) (length : Nat)
  /-- The text ends inside a character of which `length` bytes are there. -/
  | unexpectedEnd (offset : Nat) (byte : UInt8) (length : Nat)
  deriving DecidableEq, Repr

/-- The bytes that may follow a first byte directly, and how many bytes continue the character. -/
def utf8Shape? (b : UInt8) : Option (UInt8 × UInt8 × Nat) :=
  if 0xC2 ≤ b && b ≤ 0xDF then some (0x80, 0xBF, 1)
  else if b = 0xE0 then some (0xA0, 0xBF, 2)
  else if b = 0xED then some (0x80, 0x9F, 2)
  else if 0xE1 ≤ b && b ≤ 0xEF then some (0x80, 0xBF, 2)
  else if b = 0xF0 then some (0x90, 0xBF, 3)
  else if b = 0xF4 then some (0x80, 0x8F, 3)
  else if 0xF1 ≤ b && b ≤ 0xF3 then some (0x80, 0xBF, 3)
  else none

/-- What a reader has seen of a character: its first byte, the bytes so far, their value, the range
of the next byte and how many are missing. -/
structure Utf8Partial where
  first : UInt8
  length : Nat
  value : Nat
  low : UInt8
  high : UInt8
  missing : Nat

/-- The payload of a first byte that `count` bytes continue. -/
def utf8Payload (b : UInt8) (count : Nat) : Nat :=
  if count = 1 then (b &&& 0x1F).toNat
  else if count = 2 then (b &&& 0x0F).toNat
  else (b &&& 0x07).toNat

/-- The characters of bytes, the first of which is at `offset`. Characters so far are held last
first. -/
def decodeUtf8From (offset : Nat) (chars : List Char) :
    Option Utf8Partial → List UInt8 → Except Utf8Fault (List Char)
  | none, [] => .ok chars.reverse
  | some p, [] => .error (.unexpectedEnd (offset - p.length) p.first p.length)
  | none, b :: bs =>
    if b < 0x80 then decodeUtf8From (offset + 1) (Char.ofNat b.toNat :: chars) none bs
    else match utf8Shape? b with
      | none => .error (.badStart offset b)
      | some (low, high, count) =>
        decodeUtf8From (offset + 1) chars
          (some { first := b, length := 1, value := utf8Payload b count, low, high
                  missing := count })
          bs
  | some p, b :: bs =>
    if p.low ≤ b && b ≤ p.high then
      let value := p.value * 64 + (b &&& 0x3F).toNat
      if p.missing ≤ 1 then decodeUtf8From (offset + 1) (Char.ofNat value :: chars) none bs
      else
        decodeUtf8From (offset + 1) chars
          (some { p with length := p.length + 1, value, low := 0x80, high := 0xBF
                         missing := p.missing - 1 })
          bs
    else .error (.badContinuation (offset - p.length) p.first p.length)

/-- The characters of bytes. -/
def decodeUtf8 (bytes : List UInt8) : Except Utf8Fault (List Char) :=
  decodeUtf8From 0 [] none bytes

/-- A byte in hexadecimal digits. -/
def byteText (b : UInt8) : String :=
  let ds := Nat.toDigits 16 b.toNat
  "0x" ++ String.ofList (List.replicate (2 - ds.length) '0' ++ ds)

/-- The place of `length` bytes of a character from an offset on. -/
def bytePlace (offset : Nat) (byte : UInt8) (length : Nat) : String :=
  if length ≤ 1 then "byte " ++ byteText byte ++ " in position " ++ toString offset
  else "bytes in position " ++ toString offset ++ "-" ++ toString (offset + length - 1)

/-- The wording of a fault. -/
def Utf8Fault.message : Utf8Fault → String
  | .badStart offset byte =>
    "'utf-8' codec can't decode " ++ bytePlace offset byte 1 ++ ": invalid start byte"
  | .badContinuation offset byte length =>
    "'utf-8' codec can't decode " ++ bytePlace offset byte length ++ ": invalid continuation byte"
  | .unexpectedEnd offset byte length =>
    "'utf-8' codec can't decode " ++ bytePlace offset byte length ++ ": unexpected end of data"

/-- The bytes of a text. -/
def encodeUtf8 (s : String) : List UInt8 :=
  s.toUTF8.toList

end Routewright.Text
