import Routewright.Text.CharacterName
import Routewright.Text.Charset.Unicode

/-!
# Charsets of escapes

Every byte stands for the character of its number, but for those behind a backslash, which write a
character in ASCII: by a letter of its own, by a number or by its name. The raw charset knows only
numbers of four and of eight digits.
-/

namespace Routewright.Text.Escape

/-- The value of a hexadecimal digit. -/
def hexDigit? (b : UInt8) : Option Nat :=
  if 0x30 ≤ b && b ≤ 0x39 then some (b.toNat - 0x30)
  else if 0x41 ≤ b && b ≤ 0x46 then some (b.toNat - 0x37)
  else if 0x61 ≤ b && b ≤ 0x66 then some (b.toNat - 0x57)
  else none

/-- The value of an octal digit. -/
def octalDigit? (b : UInt8) : Option Nat :=
  if 0x30 ≤ b && b ≤ 0x37 then some (b.toNat - 0x30) else none

/-- The values of the digits at the front of some bytes, at most so many. -/
def digits (digit? : UInt8 → Option Nat) : Nat → List UInt8 → List Nat
  | 0, _ => []
  | _, [] => []
  | n + 1, b :: rest =>
    match digit? b with
    | some d => d :: digits digit? n rest
    | none => []

/-- The number that digits write to a base. -/
def number (base : Nat) (ds : List Nat) : Nat :=
  ds.foldl (fun n d => n * base + d) 0

/-- A piece that gives a character by a number of so many digits behind two bytes. -/
def byNumber (count : Nat) (rest : List UInt8) : Piece Unit :=
  let ds := digits hexDigit? count rest
  if ds.length = count then
    if 0x10FFFF < number 16 ds then .nothing (2 + count)
    else .chars [(char? (number 16 ds)).getD loneHalf] (2 + count) ()
  else if ds.length = rest.length then .unfinished
  else .nothing (2 + ds.length)

/-- A piece that gives a character by its name between braces. -/
def byName (rest : List UInt8) : Piece Unit :=
  match rest with
  | [] => .unfinished
  | b :: more =>
    if b ≠ 0x7B then .nothing 2
    else if !more.contains 0x7D then .unfinished
    else
      let name := more.takeWhile (· ≠ 0x7D)
      if name.isEmpty then .nothing 3
      else match CharacterName.char? (name.map fun b => Char.ofNat b.toNat) with
        | some c => .chars [c] (4 + name.length) ()
        | none => .nothing (4 + name.length)

/-- The characters that a letter behind a backslash stands for. -/
def letters : List (Char × List Char) :=
  [('\n', []), ('\\', ['\\']), ('\'', ['\'']), ('"', ['"']), ('a', [Char.ofNat 0x07]),
    ('b', [Char.ofNat 0x08]), ('f', [Char.ofNat 0x0C]), ('n', ['\n']), ('r', ['\r']), ('t', ['\t']),
    ('v', [Char.ofNat 0x0B])]

/-- A piece of the charset of all escapes. -/
def next : Unit → List UInt8 → Piece Unit
  | _, [] => .unfinished
  | _, a :: rest =>
    if a ≠ 0x5C then .chars [Char.ofNat a.toNat] 1 ()
    else match rest with
      | [] => .unfinished
      | b :: more =>
        match letters.lookup (Char.ofNat b.toNat) with
        | some cs => .chars cs 2 ()
        | none =>
          if b = 0x78 then byNumber 2 more
          else if b = 0x75 then byNumber 4 more
          else if b = 0x55 then byNumber 8 more
          else if b = 0x4E then byName more
          else
            let ds := digits octalDigit? 3 rest
            if ds.isEmpty then .chars ['\\', Char.ofNat b.toNat] 2 ()
            else .chars [Char.ofNat (number 8 ds)] (1 + ds.length) ()

/-- A piece of the charset of numbers. A backslash at the end stands for itself. -/
def nextRaw : Unit → List UInt8 → Piece Unit
  | _, [] => .unfinished
  | _, a :: rest =>
    if a ≠ 0x5C then .chars [Char.ofNat a.toNat] 1 ()
    else match rest with
      | [] => .chars ['\\'] 1 ()
      | b :: more =>
        if b = 0x75 then byNumber 4 more
        else if b = 0x55 then byNumber 8 more
        else .chars ['\\', Char.ofNat b.toNat] 2 ()

end Routewright.Text.Escape
