import Routewright.Text.Charset.Chinese
import Routewright.Text.Grid.Korean

/-!
# Charsets of Korean

KS X 1001 has only the most frequent syllables. The charsets that contain it have the others in
different ways: as rows of their parts, in blocks of their own, or each by the numbers of its parts.
-/

namespace Routewright.Text

namespace Korean

/-- The first syllable. -/
def firstSyllable : Nat := 0xAC00

/-- How many syllables there are. -/
def syllableCount : Nat := 11172

/-- The syllable of the numbers of its three parts, of which the last is zero if there is none. -/
def syllable (first middle last : Nat) : Char :=
  Char.ofNat (firstSyllable + (first * 21 + middle) * 28 + last)

/-! ## The charset of two bytes -/

/-- The letters that a syllable may start or end with, in the order of their signs. -/
def consonants : List Char :=
  "ㄱㄲㄳㄴㄵㄶㄷㄸㄹㄺㄻㄼㄽㄾㄿㅀㅁㅂㅃㅄㅅㅆㅇㅈㅉㅊㅋㅌㅍㅎ".toList

/-- Those that a syllable may start with. -/
def firstConsonants : List Char :=
  "ㄱㄲㄴㄷㄸㄹㅁㅂㅃㅅㅆㅇㅈㅉㅊㅋㅌㅍㅎ".toList

/-- Those that a syllable may end with. -/
def lastConsonants : List Char :=
  "ㄱㄲㄳㄴㄵㄶㄷㄹㄺㄻㄼㄽㄾㄿㅀㅁㅂㅄㅅㅆㅇㅈㅊㅋㅌㅍㅎ".toList

/-- The number of the consonant that the second byte of a sign stands for. -/
def consonant? (among : List Char) (b : Nat) : Option Nat :=
  if b < 0xA1 then none else consonants[b - 0xA1]?.bind (among.idxOf? ·)

/-- The second byte that stands for no part of a syllable. -/
def filler : UInt8 := 0xD4

/-- The syllable of the second bytes of the signs of its parts. -/
def spelled? (a b c : UInt8) : Option Char := do
  let first ← consonant? firstConsonants a.toNat
  let middle ← if 0xBF ≤ b && b ≤ 0xD3 then some (b.toNat - 0xBF) else none
  let last ← if c = filler then some 0 else (consonant? lastConsonants c.toNat).map (· + 1)
  return syllable first middle last

/-- A piece of KS X 1001 in two bytes. A filler starts a syllable that is spelled. -/
def next : Unit → List UInt8 → Piece Unit
  | _, bytes =>
    match bytes with
    | 0xA4 :: 0xD4 :: rest =>
      match rest with
      | w :: a :: x :: b :: y :: c :: _ =>
        .ofChar? (if w = 0xA4 && x = 0xA4 && y = 0xA4 then spelled? a b c else none) 8 ()
      | _ => .unfinished
    | _ => asciiOrPair Grid.ksx1001.high? () bytes

/-! ## The charset with blocks of syllables -/

/-- Which of the syllables are in KS X 1001. -/
def inKsx1001 : Array Bool :=
  Grid.ksx1001.chars.foldl
    (fun known c =>
      if firstSyllable ≤ c.toNat then known.setIfInBounds (c.toNat - firstSyllable) true else known)
    (Array.replicate syllableCount false)

/-- The other syllables, in their order. -/
def rareSyllables : Array Char :=
  (((List.range syllableCount).filter fun i => !inKsx1001.getD i false).map
    fun i => Char.ofNat (firstSyllable + i)).toArray

/-- The place of a second byte among those that there are: letters, and what is not in ASCII. -/
def trailIndex? (b : Nat) : Option Nat :=
  if 0x41 ≤ b && b ≤ 0x5A then some (b - 0x41)
  else if 0x61 ≤ b && b ≤ 0x7A then some (b - 0x47)
  else if 0x81 ≤ b && b < 0xFF then some (b - 0x4D)
  else none

/-- The other syllable of two bytes. Those beside KS X 1001 are in a narrow block. -/
def rareSyllable? (a b : Nat) : Option Char :=
  (trailIndex? b).bind fun i =>
    if 0x81 ≤ a && a ≤ 0xA0 then rareSyllables[(a - 0x81) * 178 + i]?
    else if 0xA1 ≤ a && a < 0xFF && i < 84 then rareSyllables[5696 + (a - 0xA1) * 84 + i]?
    else none

/-- The character of two bytes of code page 949. -/
def pair949? (a b : Nat) : Option Char :=
  (Grid.ksx1001.high? a b).orElse fun _ => rareSyllable? a b

/-! ## The charset of parts -/

/-- What five bits of a code say about a part of a syllable. -/
inductive Part
  | missing
  | number (n : Nat)
  deriving DecidableEq, Repr

/-- The part that five bits stand for, by the bits of those that there are. -/
def part? (missing : Nat) (present : List Nat) (bits : Nat) : Option Part :=
  if bits = missing then some .missing else (present.idxOf? bits).map .number

/-- The bits of the first parts. -/
def firstBits : List Nat := List.range' 2 19

/-- The bits of the middle parts. -/
def middleBits : List Nat :=
  List.range' 3 5 ++ List.range' 10 6 ++ List.range' 18 6 ++ List.range' 26 4

/-- The bits of the last parts. -/
def lastBits : List Nat := List.range' 2 16 ++ List.range' 19 11

/-- The character of the parts of a syllable. A part by itself is a letter. -/
def assembled? : Part → Part → Part → Option Char
  | .missing, .missing, .missing => some '　'
  | .number n, .missing, .missing => firstConsonants[n]?
  | .missing, .number n, .missing => some (Char.ofNat (0x314F + n))
  | .missing, .missing, .number n => lastConsonants[n]?
  | .number n, .number m, .missing => some (syllable n m 0)
  | .number n, .number m, .number l => some (syllable n m (l + 1))
  | _, _, _ => none

/-- The character of a code of two bytes that holds three parts. -/
def partsChar? (code : Nat) : Option Char := do
  let first ← part? 1 firstBits (code / 0x400 % 0x20)
  let middle ← part? 2 middleBits (code / 0x20 % 0x20)
  let last ← part? 1 lastBits (code % 0x20)
  assembled? first middle last

/-- The sign or ideograph of KS X 1001 of two bytes, two rows of which share a first byte. -/
def sign? (a b : Nat) : Option Char :=
  if a < 0xD9 || a = 0xDF || 0xF9 < a || b < 0x31 || 0x80 ≤ b && b < 0x91 || b % 0x80 = 0x7F
      || a = 0xDA && 0xA1 ≤ b && b ≤ 0xD3 then none
  else
    let row := if a < 0xE0 then 2 * (a - 0xD9) else 2 * a - 0x197
    let column := if b < 0x91 then b - 0x31 else b - 0x43
    Grid.ksx1001.char? (row + column / 0x5E + 0x21) (column % 0x5E + 0x21)

/-- The character of two bytes of the charset of parts. -/
def pairOfParts? (a b : Nat) : Option Char :=
  if a < 0xD8 then partsChar? (a * 0x100 + b) else sign? a b

end Korean

end Routewright.Text
