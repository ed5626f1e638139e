/-!
# Bytes in base 64

Reading bytes that are written in the base 64 alphabet. Characters outside the alphabet are passed
over, and reading ends where padding completes a group of four.
-/

namespace Routewright.Text

/-- The six bits that a character of the alphabet stands for. -/
def base64Digit? (c : Char) : Option Nat :=
  if 'A' ≤ c && c ≤ 'Z' then some (c.toNat - 'A'.toNat)
  else if 'a' ≤ c && c ≤ 'z' then some (c.toNat - 'a'.toNat + 26)
  else if c.isDigit then some (c.toNat - '0'.toNat + 52)
  else if c = '+' then some 62
  else if c = '/' then some 63
  else none

/-- Reads the rest of a text. `place` counts the characters of the open group, `left` holds the bits
that are not yet part of a byte, and `pads` counts the padding since the last character. -/
def base64From (place left pads : Nat) : List Char → Option (List UInt8)
  | [] => if place = 0 then some [] else none
  | c :: cs =>
    if c = '=' then
      if 2 ≤ place && 4 ≤ place + pads + 1 then some []
      else base64From place left (if 2 ≤ place then pads + 1 else pads) cs
    else match base64Digit? c with
      | none => base64From place left pads cs
      | some d =>
        match place with
        | 0 => base64From 1 d 0 cs
        | 1 => (base64From 2 (d % 16) 0 cs).map ((left * 4 + d / 16).toUInt8 :: ·)
        | 2 => (base64From 3 (d % 4) 0 cs).map ((left * 16 + d / 4).toUInt8 :: ·)
        | _ => (base64From 0 0 0 cs).map ((left * 64 + d).toUInt8 :: ·)

/-- The bytes that a text writes. -/
def base64? (cs : List Char) : Option (List UInt8) :=
  base64From 0 0 0 cs

end Routewright.Text
