import Routewright.Text.Charset.Chinese
import Routewright.Text.Grid.Japanese

/-!
# Charsets of Japanese

Kana in one byte, and the rows and columns of JIS X 0208, 0212 and 0213 in two or three bytes.
-/

namespace Routewright.Text

/-- The editions of JIS X 0213. -/
inductive JisEdition
  | first
  | second
  deriving DecidableEq, Repr

namespace Japanese

/-- The narrow kana of a byte. -/
def kana? (b : Nat) : Option Char :=
  if 0xA1 ≤ b && b ≤ 0xDF then some (Char.ofNat (0xFEC0 + b)) else none

/-! ## The planes of JIS X 0213 -/

/-- Whether an edition does not have a place of the first plane yet. -/
def isLater (edition : JisEdition) (row column : Nat) : Bool :=
  edition = .first && Grid.jisx0213Later.contains (row * 0x100 + column)

/-- The characters of a place of the first plane. -/
def firstPlane? (edition : JisEdition) (row column : Nat) : Option (List Char) :=
  if isLater edition row column then none
  else
    ((Grid.find? [Grid.jisx0208, Grid.jisx0213] row column).map ([·])).orElse fun _ =>
      (Grid.jisx0213Pairs.lookup (row * 0x100 + column)).map fun (a, b) =>
        [Char.ofNat a, Char.ofNat b]

/-- Whether a row belongs to the second plane. -/
def isSecondPlane (row : Nat) : Bool :=
  [0x21, 0x23, 0x24, 0x25, 0x28, 0x2C, 0x2D, 0x2E, 0x2F].contains row || 0x6E ≤ row

/-- The character of a place of JIS X 0212 or of the second plane. -/
def supplement? (edition : JisEdition) (row column : Nat) : Option Char :=
  if edition = .first && row = 0x7D && column = 0x3B then some '鬝'
  else Grid.jisx0212.char? row column

/-- The character of a place of the second plane. -/
def secondPlane? (edition : JisEdition) (row column : Nat) : Option Char :=
  if isSecondPlane row then supplement? edition row column else none

/-! ## Bytes that are not in ASCII -/

/-- A piece of a charset with kana behind one byte and a supplement behind another one. `main` gives
the piece at another place. -/
def nextExtended (main : Nat → Nat → Piece Unit) (supplement? : Nat → Nat → Option Char) :
    Unit → List UInt8 → Piece Unit
  | _, [] => .unfinished
  | _, a :: rest =>
    if a < 0x80 then .chars [Char.ofNat a.toNat] 1 ()
    else match rest with
      | [] => .unfinished
      | b :: rest =>
        if a = 0x8E then .ofChar? (kana? b.toNat) 2 ()
        else if a = 0x8F then
          match rest with
          | [] => .unfinished
          | c :: _ => .ofChar? (supplement? (b.toNat - 0x80) (c.toNat - 0x80)) 3 ()
        else main (a.toNat - 0x80) (b.toNat - 0x80)

/-- The characters of a place of JIS X 0208. -/
def jisx0208? (row column : Nat) : Option (List Char) :=
  (Grid.jisx0208.char? row column).map ([·])

/-- The piece at a place of JIS X 0208. -/
def jisx0208 (row column : Nat) : Piece Unit :=
  .ofChars? (jisx0208? row column) 2 1 ()

/-- The piece at a place of the first plane, with a wide tilde. -/
def firstPlane (edition : JisEdition) (row column : Nat) : Piece Unit :=
  if (row, column) = (0x22, 0x32) then .chars ['～'] 2 ()
  else .ofChars? (firstPlane? edition row column) 2 (if isLater edition row column then 2 else 1) ()

/-- The character of a place of JIS X 0212. -/
def jisx0212? (row column : Nat) : Option Char :=
  if isSecondPlane row then none else Grid.jisx0212.char? row column

/-! ## Shifted rows -/

/-- The place of two bytes, of which the first one stands for two rows. -/
def shiftedPlace? (a b : Nat) : Option (Nat × Nat) :=
  if b < 0x40 || b = 0x7F || 0xFC < b then none
  else
    let pair := if a < 0xE0 then a - 0x81 else a - 0xC1
    let column := if b < 0x80 then b - 0x40 else b - 0x41
    some (2 * pair + column / 0x5E, column % 0x5E)

/-- The rows of the second plane in the order of their first bytes. -/
def secondPlaneRows : List Nat :=
  [1, 8, 3, 4, 5, 12, 13, 14, 15] ++ List.range' 78 17

/-- A piece of a charset with kana in one byte. `single?` gives what other bytes stand for, `isLead`
says which bytes start a character of two, and `pair` gives the piece of those. -/
def nextShifted (single? : Nat → Option Char) (isLead : Nat → Bool)
    (pair : Nat → Nat → Piece Unit) : Unit → List UInt8 → Piece Unit
  | _, [] => .unfinished
  | _, a :: rest =>
    if isLead a.toNat then
      match rest with
      | [] => .unfinished
      | b :: _ => pair a.toNat b.toNat
    else .ofChar? ((single? a.toNat).orElse fun _ => kana? a.toNat) 1 ()

/-- The character of a byte of ASCII. -/
def ascii? (b : Nat) : Option Char :=
  if b < 0x80 then some (Char.ofNat b) else none

/-- The character of a byte of the Roman set, which has two signs in the place of those of ASCII. -/
def roman? (b : Nat) : Option Char :=
  if b = 0x5C then some '¥' else if b = 0x7E then some '‾' else ascii? b

/-- The piece of two bytes of JIS X 0208 in shifted rows. -/
def shifted (a b : Nat) : Piece Unit :=
  match shiftedPlace? a b with
  | some (row, column) => jisx0208 (row + 0x21) (column + 0x21)
  | none => .nothing 1

/-- The piece of two bytes of JIS X 0213 in shifted rows, with a narrow backslash. -/
def shiftedPlanes (edition : JisEdition) (a b : Nat) : Piece Unit :=
  match shiftedPlace? a b with
  | none => .nothing 1
  | some (0, 0x1F) => .chars ['\\'] 2 ()
  | some (row, column) =>
    if row < 94 then
      .ofChars? (firstPlane? edition (row + 0x21) (column + 0x21)) 2
        (if isLater edition (row + 0x21) (column + 0x21) then 2 else 1) ()
    else
      .ofChar?
        (secondPlaneRows[row - 94]?.bind fun row =>
          secondPlane? edition (row + 0x20) (column + 0x21))
        2 ()

/-! ## Code page 932 -/

/-- The character of a byte. -/
def single932? (b : Nat) : Option Char :=
  if b ≤ 0x80 then some (Char.ofNat b)
  else if b = 0xA0 then some (Char.ofNat 0xF8F0)
  else if 0xFD ≤ b then some (Char.ofNat (0xF8F1 + (b - 0xFD)))
  else none

/-- The piece of two bytes. Twenty rows are free for characters of one's own. -/
def pair932 (a b : Nat) : Piece Unit :=
  match shiftedPlace? a b with
  | none => .nothing 1
  | some (row, column) =>
    if 94 ≤ row && row < 114 then .chars [Char.ofNat (0xE000 + (row - 94) * 94 + column)] 2 ()
    else
      .ofChar?
        (Grid.find? (Grid.cp932Signs ++ Grid.jisx0208 :: Grid.cp932More) (row + 0x21)
          (column + 0x21))
        2 ()

end Japanese

end Routewright.Text
