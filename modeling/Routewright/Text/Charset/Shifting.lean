import Routewright.Text.Charset.Japanese
import Routewright.Text.Charset.Korean
import Routewright.Text.CodePage

/-!
# Charsets that change between sets

ISO 2022 in seven bits: an order, which an escape starts, says in which set of characters the bytes
behind it are. Three sets can be ready at once. The second one is used between two signs, and one
character of the third one follows an order of its own.
-/

namespace Routewright.Text

/-- The charsets of ISO 2022, by what they may change between. -/
inductive Iso2022
  | japanese
  | japanese1
  | japanese2
  | japaneseExtended
  /-- JIS X 0213 in an edition. -/
  | japanesePlanes (edition : JisEdition)
  | korean
  deriving DecidableEq, Repr

/-- A set of characters that a text can be in. -/
inductive CodedSet
  | ascii
  | roman
  | kana
  | jisx0208
  | jisx0212
  | firstPlane (edition : JisEdition)
  | secondPlane
  | gb2312
  | ksx1001
  /-- The second half of a code page, of which single characters are used. -/
  | half (page : String)
  deriving DecidableEq, Repr

/-- How a set is named in an order: by a letter, and by whether its characters take two bytes. -/
structure SetName where
  isDouble : Bool
  letter : Char
  deriving DecidableEq, Repr

/-- The sets of Japanese that every charset of it has. -/
def commonSets : List (SetName × CodedSet) :=
  [(⟨true, 'B'⟩, .jisx0208), (⟨true, '@'⟩, .jisx0208), (⟨false, 'J'⟩, .roman)]

namespace Iso2022

/-- The sets that a charset may change to, beside ASCII. -/
def sets : Iso2022 → List (SetName × CodedSet)
  | .japanese => commonSets
  | .japanese1 => (⟨true, 'D'⟩, .jisx0212) :: commonSets
  | .japanese2 =>
    [(⟨true, 'D'⟩, .jisx0212), (⟨true, 'C'⟩, .ksx1001), (⟨true, 'A'⟩, .gb2312),
      (⟨false, 'A'⟩, .half "latin_1"), (⟨false, 'F'⟩, .half "iso8859_7")] ++ commonSets
  | .japaneseExtended => (⟨true, 'D'⟩, .jisx0212) :: (⟨false, 'I'⟩, .kana) :: commonSets
  | .japanesePlanes edition =>
    [(⟨true, 'B'⟩, .jisx0208), (⟨true, if edition = .first then 'O' else 'Q'⟩, .firstPlane edition),
      (⟨true, 'P'⟩, .secondPlane)]
  | .korean => [(⟨true, 'C'⟩, .ksx1001)]

/-- The set of a name. -/
def set? (charset : Iso2022) (name : SetName) : Option CodedSet :=
  if name = ⟨false, 'B'⟩ then some .ascii else charset.sets.lookup name

/-- Whether a charset uses the signs for its second set. -/
def hasShifts (charset : Iso2022) : Bool :=
  charset = .korean

/-- Whether a charset uses characters of a third set. -/
def hasThird (charset : Iso2022) : Bool :=
  charset = .japanese2

/-- Whether a charset knows the order that has a revision of JIS X 0208 before it. -/
def hasRevision (charset : Iso2022) : Bool :=
  charset ≠ .korean

end Iso2022

/-- Which of the sets that are ready is meant. -/
inductive SetPlace
  | first
  | second
  | third
  deriving DecidableEq, Repr

/-- The sets that are ready, whether the second one is used, and whether the text is inside an order
that the charset does not know. -/
structure ShiftState where
  first : CodedSet := .ascii
  second : CodedSet := .ascii
  third : CodedSet := .ascii
  isSecond : Bool := false
  isForeign : Bool := false

/-- A state with a set made ready. -/
def ShiftState.ready (s : ShiftState) (place : SetPlace) (set : CodedSet) : ShiftState :=
  match place with
  | .first => { s with first := set }
  | .second => { s with second := set }
  | .third => { s with third := set }

namespace CodedSet

/-- Whether the characters of a set take two bytes. -/
def isDouble : CodedSet → Bool
  | .ascii | .roman | .kana | .half _ => false
  | _ => true

/-- The characters of a byte of a set whose characters take one. -/
def single? (set : CodedSet) (b : Nat) : Option Char :=
  match set with
  | .ascii => Japanese.ascii? b
  | .roman => Japanese.roman? b
  | .kana => if b < 0x80 then Japanese.kana? (b + 0x80) else none
  | _ => none

/-- The characters of two bytes of a set. -/
def pair? (set : CodedSet) (a b : Nat) : Option (List Char) :=
  match set with
  | .jisx0208 => Japanese.jisx0208? a b
  | .jisx0212 => (Japanese.jisx0212? a b).map ([·])
  | .firstPlane edition => Japanese.firstPlane? edition a b
  | .secondPlane => (Japanese.secondPlane? .second a b).map ([·])
  | .gb2312 => (Grid.gb2312.char? a b).map ([·])
  | .ksx1001 => (Grid.ksx1001.char? a b).map ([·])
  | _ => none

/-- The characters that a page has only in its later form: its signs of money and a mark. -/
def laterHalf : List (String × Nat) :=
  [("iso8859_7", 0xA4), ("iso8859_7", 0xA5), ("iso8859_7", 0xAA)]

/-- The character of a byte of the second half of a page; a byte of the first half is in ASCII. -/
def half? (page : String) (b : Nat) : Option Char :=
  if b < 0xA0 || page = "latin_1" then some (Char.ofNat b)
  else if laterHalf.contains (page, b) then none
  else (codePages.lookup page).bind fun codes => codes.char? (b - 0x80)

end CodedSet

namespace Shifting

/-- The escape. -/
def escape : UInt8 := 0x1B

/-- The most bytes of an order. -/
def longestOrder : Nat := 16

/-- Whether a byte ends an order. -/
def isOrderEnd (b : UInt8) : Bool :=
  0x40 ≤ b && b ≤ 0x5A

/-- Whether a byte behind an escape starts an order about sets. -/
def isOrderStart (b : UInt8) : Bool :=
  "()$.&".toList.any fun c => c.toNat = b.toNat

/-- How far an order goes. -/
inductive OrderLength
  | bytes (count : Nat)
  | tooLong
  | unfinished

/-- The length of an order of which `count` bytes are passed. A revision, where it is known, hides
the escape behind it. -/
def orderLength (hasRevision : Bool) (count : Nat) (rest : List UInt8) : OrderLength :=
  if longestOrder ≤ count then .tooLong
  else match rest with
    | [] => .unfinished
    | b :: more =>
      if isOrderEnd b then .bytes (count + 1)
      else if hasRevision && b = 0x26 && more.head? = some 0x40 then
        orderLength hasRevision (count + 3) (more.drop 2)
      else orderLength hasRevision (count + 1) more
termination_by rest.length
decreasing_by all_goals simp only [List.length_drop, List.length_cons]; omega

/-- The place and the name of the set that an order makes ready. -/
def order? (charset : Iso2022) (order : List Char) : Option (SetPlace × SetName) :=
  match order with
  | [_, '$', c] => some (.first, ⟨true, c⟩)
  | [_, '(', c] => some (.first, ⟨false, c⟩)
  | [_, ')', c] => some (.second, ⟨false, c⟩)
  | [_, '.', c] => if charset.hasThird then some (.third, ⟨false, c⟩) else none
  | [_, '$', '(', c] => some (.first, ⟨true, c⟩)
  | [_, '$', ')', c] => some (.second, ⟨true, c⟩)
  | [_, _, _, e, '$', 'B'] =>
    if charset.hasRevision && e.toNat = escape.toNat then some (.first, ⟨true, 'B'⟩) else none
  | _ => none

/-- A piece that is an order about sets. -/
def nextOrder (charset : Iso2022) (s : ShiftState) (bytes : List UInt8) : Piece ShiftState :=
  match orderLength charset.hasRevision 1 (bytes.drop 1) with
  | .unfinished => .unfinished
  | .tooLong => .nothing 1
  | .bytes count =>
    let order := (bytes.take count).map fun b => Char.ofNat b.toNat
    match order? charset order with
    | none => .nothing count
    | some (place, name) =>
      match charset.set? name with
      | none => .nothing count
      | some set => .chars [] count (s.ready place set)

/-- A piece that is one character of the third set. -/
def nextThird (s : ShiftState) (b : UInt8) : Piece ShiftState :=
  match s.third with
  | .ascii => if b < 0x80 then .chars [Char.ofNat b.toNat] 3 s else .nothing 3
  | .half page =>
    let c := if page = "latin_1" && 0x80 ≤ b then none else CodedSet.half? page (b ^^^ 0x80).toNat
    .ofChars? (c.map ([·])) 3 3 s
  | _ => .stuck

/-- A piece of characters in the set in use. -/
def nextChars (s : ShiftState) (a : UInt8) (rest : List UInt8) : Piece ShiftState :=
  let set := if s.isSecond then s.second else s.first
  if set.isDouble then
    match rest with
    | [] => .unfinished
    | b :: _ => .ofChars? (set.pair? a.toNat b.toNat) 2 2 s
  else .ofChar? (set.single? a.toNat) 1 s

/-- A piece of a text that changes between sets. -/
def next (charset : Iso2022) (s : ShiftState) : List UInt8 → Piece ShiftState
  | [] => .unfinished
  | a :: rest =>
    let plain (s : ShiftState) : Piece ShiftState := .chars [Char.ofNat a.toNat] 1 s
    if s.isForeign then plain { s with isForeign := !isOrderEnd a }
    else if a = escape then
      match rest with
      | [] => .unfinished
      | b :: more =>
        if isOrderStart b then nextOrder charset s (a :: rest)
        else if charset.hasThird && b = 0x4E then
          match more with
          | [] => .unfinished
          | c :: _ => nextThird s c
        else plain { s with isForeign := true }
    else if charset.hasShifts && a = 0x0F then .chars [] 1 { s with isSecond := false }
    else if charset.hasShifts && a = 0x0E then .chars [] 1 { s with isSecond := true }
    else if a = 0x0A then plain { s with isSecond := false }
    else if a < 0x20 then plain s
    else if 0x80 ≤ a then .nothing 1
    else nextChars s a rest

end Shifting

end Routewright.Text
