import Routewright.Text.ByteReader
import Routewright.Text.Grid.Chinese

/-!
# Charsets of Chinese

GB 2312 and the charsets that grew out of it. A byte of ASCII stands for itself; another one starts
a character of two bytes, or of four.
-/

namespace Routewright.Text

/-- A piece of a charset whose characters take one byte in ASCII and two else. -/
def asciiOrPair (pair? : Nat → Nat → Option Char) : Unit → List UInt8 → Piece Unit
  | _, [] => .unfinished
  | _, a :: rest =>
    if a < 0x80 then .chars [Char.ofNat a.toNat] 1 ()
    else match rest with
      | [] => .unfinished
      | b :: _ => .ofChar? (pair? a.toNat b.toNat) 2 ()

/-- The character of a grid of 94 rows and columns by two bytes that are not in ASCII. -/
def Grid.high? (g : Grid) (a b : Nat) : Option Char :=
  g.char? (a - 0x80) (b - 0x80)

namespace Gbk

/-! ## GBK -/

/-- How many ideographs there are in the order that GBK follows. -/
def ideographCount : Nat := 20902

/-- The first of those ideographs. -/
def firstIdeograph : Nat := 0x4E00

/-- Which of the ideographs are in GB 2312. -/
def inGb2312 : Array Bool :=
  Grid.gb2312.chars.foldl
    (fun known c =>
      if firstIdeograph ≤ c.toNat then known.setIfInBounds (c.toNat - firstIdeograph) true
      else known)
    (Array.replicate ideographCount false)

/-- The ideographs that GBK adds to GB 2312: all others in their order, and some at the end. -/
def ideographs : Array Char :=
  let others := (List.range ideographCount).filter fun i => !inGb2312.getD i false
  ((others.map fun i => Char.ofNat (firstIdeograph + i)) ++ Grid.gbkLast.toList).toArray

/-- The place of a second byte among those that there are. -/
def trailIndex? (b : Nat) : Option Nat :=
  if 0x40 ≤ b && b < 0x7F then some (b - 0x40)
  else if 0x80 ≤ b && b < 0xFF then some (b - 0x41)
  else none

/-- The ideograph of two bytes. They are in two blocks, before GB 2312 and beside it. -/
def ideograph? (a b : Nat) : Option Char :=
  (trailIndex? b).bind fun i =>
    if 0x81 ≤ a && a ≤ 0xA0 then ideographs[(a - 0x81) * 190 + i]?
    else if 0xAA ≤ a && a < 0xFF && i < 96 then ideographs[6080 + (a - 0xAA) * 96 + i]?
    else none

/-- The character of two bytes. -/
def pair? (a b : Nat) : Option Char :=
  (Grid.find? Grid.gbkInstead a b).orElse fun _ =>
    (Grid.gb2312.high? a b).orElse fun _ =>
      (Grid.find? Grid.gbkMore a b).orElse fun _ => ideograph? a b

end Gbk

namespace Gb18030

/-! ## GB 18030 -/

/-- The character of two bytes. -/
def pair? (a b : Nat) : Option Char :=
  (Gbk.pair? a b).orElse fun _ =>
    (Grid.gb18030Pairs.find? fun (code, _, count) =>
      code ≤ a * 0x100 + b && a * 0x100 + b < code + count).map
      fun (code, first, _) => Char.ofNat (first + (a * 0x100 + b - code))

/-- How many characters in four bytes there are below those of the first plane. -/
def quadCount : Nat := 39420

/-- The code point of a number below that. -/
def quadPoint (n : Nat) : Nat :=
  match (Grid.gb18030Quads.takeWhile fun run => run.1 ≤ n).getLast? with
  | some (before, first) => first + (n - before)
  | none => n

/-- The character of four bytes, of which the second and the fourth are digits. -/
def quad? (a b c d : Nat) : Option Char :=
  if a < 0x81 || 0xFE < a || c < 0x81 || 0xFE < c || d < 0x30 || 0x39 < d then none
  else
    let low := (b - 0x30) * 1260 + (c - 0x81) * 10 + (d - 0x30)
    let n := (a - 0x81) * 12600 + low
    let above := 0x10000 + (a - 0x90) * 12600 + low
    if a < 0x85 then if n < quadCount then some (Char.ofNat (quadPoint n)) else none
    else if 0x90 ≤ a && above ≤ 0x10FFFF then some (Char.ofNat above)
    else none

/-- A piece of GB 18030. -/
def next : Unit → List UInt8 → Piece Unit
  | _, [] => .unfinished
  | _, a :: rest =>
    if a < 0x80 then .chars [Char.ofNat a.toNat] 1 ()
    else match rest with
      | [] => .unfinished
      | b :: rest =>
        if b < 0x30 || 0x39 < b then .ofChar? (pair? a.toNat b.toNat) 2 ()
        else match rest with
          | c :: d :: _ => .ofChar? (quad? a.toNat b.toNat c.toNat d.toNat) 4 ()
          | _ => .unfinished

end Gb18030

namespace Hz

/-! ## HZ

Only ASCII is used. A tilde starts an order; two orders begin and end a text in GB 2312. -/

/-- A piece of HZ. The state says whether the text is in GB 2312. -/
def next (inGb : Bool) : List UInt8 → Piece Bool
  | [] => .unfinished
  | a :: rest =>
    if a = 0x7E then
      match rest with
      | [] => .unfinished
      | b :: _ =>
        if b = 0x7E && !inGb then .chars ['~'] 2 false
        else if b = 0x7B && !inGb then .chars [] 2 true
        else if b = 0x0A && !inGb then .chars [] 2 false
        else if b = 0x7D && inGb then .chars [] 2 false
        else .nothing 1
    else if 0x80 ≤ a then .nothing 1
    else if !inGb then .chars [Char.ofNat a.toNat] 1 false
    else match rest with
      | [] => .unfinished
      | b :: _ => .ofChar? (Grid.gb2312.char? a.toNat b.toNat) 2 true

end Hz

end Routewright.Text
