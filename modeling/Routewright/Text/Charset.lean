import Routewright.Domain.Punycode
import Routewright.Text.Charset.Big5
import Routewright.Text.Charset.Escape
import Routewright.Text.Charset.Shifting

/-!
# Charsets

How bytes are read as characters. There are two ways of reading. One replaces each piece of the
bytes that stands for no character, and has no end of the bytes in view before it is there; the
other one refuses such bytes. A coding that does not lead from bytes to characters reads nothing at
all.
-/

namespace Routewright.Text

/-- The charsets that write characters in one byte or in more. -/
inductive MultiByte
  | gb2312
  | gbk
  | gb18030
  | hz
  | big5
  | cp950
  | big5HongKong
  | eucJapanese
  /-- The planes of JIS X 0213 in bytes that are not in ASCII. -/
  | eucPlanes (edition : JisEdition)
  | shiftJis
  | cp932
  /-- The planes of JIS X 0213 in shifted rows. -/
  | shiftPlanes (edition : JisEdition)
  | eucKorean
  | cp949
  | johab
  deriving DecidableEq, Repr

/-- What bytes stand for in a charset. -/
def MultiByte.transcript : MultiByte → List UInt8 → Transcript
  | .gb2312 => Text.transcript (asciiOrPair Grid.gb2312.high?) ()
  | .gbk => Text.transcript (asciiOrPair Gbk.pair?) ()
  | .gb18030 => Text.transcript Gb18030.next ()
  | .hz => Text.transcript Hz.next false
  | .big5 => Text.transcript (asciiOrPair Big5.pair?) ()
  | .cp950 => Text.transcript (asciiOrPair Big5.pair950?) ()
  | .big5HongKong => Text.transcript Big5.nextHongKong ()
  | .eucJapanese =>
    Text.transcript (Japanese.nextExtended Japanese.jisx0208 Japanese.jisx0212?) ()
  | .eucPlanes edition =>
    Text.transcript
      (Japanese.nextExtended (Japanese.firstPlane edition) (Japanese.supplement? edition)) ()
  | .shiftJis =>
    Text.transcript
      (Japanese.nextShifted Japanese.ascii?
        (fun b => 0x81 ≤ b && b ≤ 0x9F || 0xE0 ≤ b && b ≤ 0xEA) Japanese.shifted) ()
  | .cp932 =>
    Text.transcript
      (Japanese.nextShifted Japanese.single932?
        (fun b => 0x81 ≤ b && b ≤ 0x9F || 0xE0 ≤ b && b ≤ 0xFC) Japanese.pair932) ()
  | .shiftPlanes edition =>
    Text.transcript
      (Japanese.nextShifted Japanese.roman?
        (fun b => 0x81 ≤ b && b ≤ 0x9F || 0xE0 ≤ b && b ≤ 0xFC) (Japanese.shiftedPlanes edition))
      ()
  | .eucKorean => Text.transcript Korean.next ()
  | .cp949 => Text.transcript (asciiOrPair Korean.pair949?) ()
  | .johab => Text.transcript (asciiOrPair Korean.pairOfParts?) ()

/-- A coding that may be named where the charset of a document is. If no byte order is given, a mark
at the start of the text tells it. -/
inductive Charset
  | utf7
  /-- UTF-8, of which a mark at the start may be dropped. -/
  | utf8 (dropsMark : Bool)
  | utf16 (order : Option ByteOrder)
  | utf32 (order : Option ByteOrder)
  | page (codes : CodePage)
  /-- A page whose first half is not ASCII. -/
  | wholePage (codes : CodePage)
  | multiByte (charset : MultiByte)
  | iso2022 (charset : Iso2022)
  /-- Escapes, all of them or only those by number. -/
  | escapes (isRaw : Bool)
  | punycode
  /-- A coding that leads from bytes to bytes. -/
  | ofBytes
  /-- A coding that leads from characters to characters. -/
  | ofCharacters
  /-- A coding by which nothing is read where characters are replaced. -/
  | unusable
  deriving DecidableEq, Repr

/-- Why nothing can be read. -/
inductive CharsetFault
  /-- There is no mark at the start of a text whose byte order is not given. -/
  | noMark
  | ofBytes
  | ofCharacters
  | unusable
  /-- There are more unfinished bytes at the end than are kept. -/
  | overfull
  /-- An order asks for a character of a set that has none to give. -/
  | stuck
  /-- Digits of a charset in ASCII are not. -/
  | notAscii
  deriving DecidableEq, Repr

/-- The wording of a fault. -/
def CharsetFault.message : CharsetFault → String
  | .noMark => "the text does not start with a byte order mark"
  | .ofBytes | .ofCharacters => "the charset is no coding of characters in bytes"
  | .unusable => "the charset cannot be read with replacements"
  | .overfull => "the text ends inside an order that is too long"
  | .stuck => "the text uses a set of characters that is not there"
  | .notAscii => "the text is not in ASCII"

/-- The character that stands for bytes without one. -/
def replacement : Char := Char.ofNat 0xFFFD

/-! ## Pages -/

/-- What bytes on a code page stand for. -/
def CodePage.transcript (page : CodePage) (bytes : List UInt8) : Transcript :=
  { chars := bytes.map fun b =>
      if b < 0x80 then some (Char.ofNat b.toNat) else page.char? (b.toNat - 0x80) }

/-- What bytes on a whole page stand for. The first byte always stands for the first character. -/
def CodePage.wholeTranscript (page : CodePage) (bytes : List UInt8) : Transcript :=
  { chars := bytes.map fun b => if b = 0 then some (Char.ofNat 0) else page.char? b.toNat }

namespace Charset

/-- The charset of the characters that take one byte in UTF-8. -/
def ascii : Charset := .page []

/-- The charset of the first 256 characters. -/
def latin1 : Charset := .page [(0x80, 0x80)]

/-! ## Marks -/

/-- What bytes in UTF-16 or, if `isLong`, in UTF-32 stand for. -/
def ordered (isLong : Bool) (order : ByteOrder) : List UInt8 → Transcript :=
  if isLong then transcript (nextUtf32 order) () else transcript (nextUtf16 order) ()

/-- How many bytes a mark has. -/
def markWidth (isLong : Bool) : Nat :=
  if isLong then 4 else 2

/-- The mark that tells a byte order. -/
def mark (isLong : Bool) : ByteOrder → List UInt8
  | .little => if isLong then [0xFF, 0xFE, 0, 0] else [0xFF, 0xFE]
  | .big => if isLong then [0, 0, 0xFE, 0xFF] else [0xFE, 0xFF]

/-- The byte order that a mark at the start of a text tells. -/
def markedOrder? (isLong : Bool) (bytes : List UInt8) : Option ByteOrder :=
  [ByteOrder.little, ByteOrder.big].find? fun order => (mark isLong order).isPrefixOf bytes

/-- A text in UTF-8 without the mark at its start. -/
def withoutMark (bytes : List UInt8) : List UInt8 :=
  if [0xEF, 0xBB, 0xBF].isPrefixOf bytes then bytes.drop 3 else bytes

/-! ## Reading -/

/-- The code points of bytes. -/
def points (bytes : List UInt8) : List Nat :=
  bytes.map UInt8.toNat

/-- The characters of code points. -/
def charsOf (points : List Nat) : List Char :=
  points.map fun n => (char? n).getD loneHalf

/-- The characters of bytes in Punycode. Reading stops where the digits cannot be read. -/
def lenientPunycode (bytes : List UInt8) : Except CharsetFault (List Char) :=
  let (basic, digits) := Domain.Punycode.parts (points bytes)
  if digits.all (· < 0x80) then
    let label := basic.map fun n => if n < 0x80 then n else replacement.toNat
    .ok (charsOf (Domain.Punycode.Reader.runOn { label } digits))
  else .error .notAscii

/-- The most unfinished bytes that are kept while a text goes on. -/
def mostKept : Nat := 8

/-- The characters of bytes in a charset with orders. -/
def lenientIso2022 (charset : Iso2022) (bytes : List UInt8) : Except CharsetFault (List Char) :=
  let t := transcript (Shifting.next charset) {} bytes
  if t.isStuck then .error .stuck
  else if mostKept < t.unfinished.length then .error .overfull
  else .ok (t.replaced replacement)

/-- The characters of bytes in pairs or quadruples behind a mark. Bytes that are too few for a mark
wait for the others. -/
def lenientMarked (isLong : Bool) (bytes : List UInt8) : Except CharsetFault (List Char) :=
  match markedOrder? isLong bytes with
  | some order =>
    .ok ((ordered isLong order (bytes.drop (markWidth isLong))).replaced replacement)
  | none =>
    if markWidth isLong ≤ bytes.length then .error .noMark
    else .ok (if bytes.isEmpty then [] else [replacement])

/-- What bytes stand for, none for codings that are read in a way of their own. -/
def transcript? (charset : Charset) (bytes : List UInt8) : Option Transcript :=
  match charset with
  | .utf7 => some (utf7Transcript bytes)
  | .utf8 dropsMark =>
    some (transcript nextUtf8 () (if dropsMark then withoutMark bytes else bytes))
  | .utf16 (some order) => some (ordered false order bytes)
  | .utf32 (some order) => some (ordered true order bytes)
  | .page codes => some (codes.transcript bytes)
  | .wholePage codes => some (codes.wholeTranscript bytes)
  | .multiByte charset => some (charset.transcript bytes)
  | .iso2022 charset => some (transcript (Shifting.next charset) {} bytes)
  | .escapes isRaw => some (transcript (if isRaw then Escape.nextRaw else Escape.next) () bytes)
  | .utf16 none | .utf32 none | .punycode | .ofBytes | .ofCharacters | .unusable => none

/-- The characters of bytes, with replacements. -/
def read (charset : Charset) (bytes : List UInt8) : Except CharsetFault (List Char) :=
  match charset with
  | .utf16 none => lenientMarked false bytes
  | .utf32 none => lenientMarked true bytes
  | .iso2022 charset => lenientIso2022 charset bytes
  | .punycode => lenientPunycode bytes
  | .ofBytes => .error .ofBytes
  | .ofCharacters => .error .ofCharacters
  | .unusable => .error .unusable
  | charset => .ok (((charset.transcript? bytes).getD {}).replaced replacement)

/-- The characters of bytes in pairs or quadruples. Without a mark the lower byte comes first. -/
def wholeMarked? (isLong : Bool) (bytes : List UInt8) : Option (List Char) :=
  match markedOrder? isLong bytes with
  | some order => (ordered isLong order (bytes.drop (markWidth isLong))).whole?
  | none => (ordered isLong .little bytes).whole?

/-- The characters of bytes, if all bytes belong to characters. -/
def readWhole? (charset : Charset) (bytes : List UInt8) : Option (List Char) :=
  match charset with
  | .utf16 none => wholeMarked? false bytes
  | .utf32 none => wholeMarked? true bytes
  | .punycode =>
    if (points bytes).all (· < 0x80) then (Domain.Punycode.decode (points bytes)).map charsOf
    else none
  | charset => (charset.transcript? bytes).bind Transcript.whole?

end Charset

end Routewright.Text
