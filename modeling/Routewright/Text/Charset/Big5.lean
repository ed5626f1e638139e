import Routewright.Text.Charset.Chinese
import Routewright.Text.Grid.Big5

/-!
# Big5

Big5 and the charsets that add characters to it.
-/

namespace Routewright.Text

namespace Big5

/-- The character of two bytes. -/
def pair? (a b : Nat) : Option Char :=
  Grid.find? [Grid.big5Left, Grid.big5Right] a b

/-- The character of two bytes of code page 950. -/
def pair950? (a b : Nat) : Option Char :=
  (Grid.find? Grid.cp950More a b).orElse fun _ => pair? a b

/-! ## The Hong Kong set -/

/-- Whether two bytes are in the part of Big5 that the Hong Kong set has in its own way. -/
def isHongKong (a b : Nat) : Bool :=
  0xC6 < a && a ≤ 0xC8 || a = 0xC6 && 0xA1 ≤ b

/-- The parts of the Hong Kong set. -/
def hongKong : List Grid :=
  [Grid.hkscsLowLeft, Grid.hkscsLowRight, Grid.hkscsMiddleLeft, Grid.hkscsMiddleRight,
    Grid.hkscsHighLeft, Grid.hkscsHighRight]

/-- The letters of the Hong Kong set that are two characters. -/
def hongKongPairs : List ((Nat × Nat) × List Char) :=
  [((0x88, 0x62), ['Ê', Char.ofNat 0x304]), ((0x88, 0x64), ['Ê', Char.ofNat 0x30C]),
    ((0x88, 0xA3), ['ê', Char.ofNat 0x304]), ((0x88, 0xA5), ['ê', Char.ofNat 0x30C])]

/-- The characters of two bytes of Big5 with the Hong Kong set. -/
def pairHongKong? (a b : Nat) : Option (List Char) :=
  let plain := if isHongKong a b then none else pair? a b
  ((plain.orElse fun _ => Grid.find? hongKong a b).map ([·])).orElse fun _ =>
    hongKongPairs.lookup (a, b)

/-- A piece of Big5 with the Hong Kong set. -/
def nextHongKong : Unit → List UInt8 → Piece Unit
  | _, [] => .unfinished
  | _, a :: rest =>
    if a < 0x80 then .chars [Char.ofNat a.toNat] 1 ()
    else match rest with
      | [] => .unfinished
      | b :: _ => .ofChars? (pairHongKong? a.toNat b.toNat) 2 1 ()

end Big5

end Routewright.Text
