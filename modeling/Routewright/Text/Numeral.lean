import Routewright.Text.Blank

/-!
# Numerals

Reading integers. The decimal digits of every script count, as do the blanks of every script around
a numeral; `plain?` writes both in ASCII. A numeral in a base has a sign, the letters that announce
the base, and digits, between any two of which an underscore may stand.
-/

namespace Routewright.Text

/-- The code points of the zeros of all scripts. The other nine digits of a script follow its zero
in order. -/
def zeros : Array Nat :=
  #[
    0x30, 0x660, 0x6F0, 0x7C0, 0x966, 0x9E6, 0xA66, 0xAE6, 0xB66, 0xBE6, 0xC66, 0xCE6, 0xD66, 0xDE6,
    0xE50, 0xED0, 0xF20, 0x1040, 0x1090, 0x17E0, 0x1810, 0x1946, 0x19D0, 0x1A80, 0x1A90, 0x1B50,
    0x1BB0, 0x1C40, 0x1C50, 0xA620, 0xA8D0, 0xA900, 0xA9D0, 0xA9F0, 0xAA50, 0xABF0, 0xFF10, 0x104A0,
    0x10D30, 0x11066, 0x110F0, 0x11136, 0x111D0, 0x112F0, 0x11450, 0x114D0, 0x11650, 0x116C0,
    0x11730, 0x118E0, 0x11950, 0x11C50, 0x11D50, 0x11DA0, 0x16A60, 0x16AC0, 0x16B50, 0x1D7CE,
    0x1D7D8, 0x1D7E2, 0x1D7EC, 0x1D7F6, 0x1E140, 0x1E2F0, 0x1E950, 0x1FBF0]

/-- The value of a decimal digit of any script. -/
def decimalDigit? (c : Char) : Option Nat :=
  (zeros.find? fun z => z ≤ c.toNat && c.toNat < z + 10).map fun z => c.toNat - z

/-- A character of a numeral in ASCII: digits and blanks of other scripts become those of ASCII. -/
def plainChar? (c : Char) : Option Char :=
  if c.toNat < 0x7F then some c
  else if isBlank c then some ' '
  else (decimalDigit? c).map Nat.digitChar

/-- A numeral in ASCII, if it can be written so. -/
def plain? (cs : List Char) : Option (List Char) :=
  cs.mapM plainChar?

/-- A blank of ASCII. -/
def isPlainBlank (c : Char) : Bool :=
  c = ' ' || (0x09 ≤ c.toNat && c.toNat ≤ 0x0D)

/-- A text without the blanks of ASCII at its ends. -/
def trimPlain (cs : List Char) : List Char :=
  ((cs.dropWhile isPlainBlank).reverse.dropWhile isPlainBlank).reverse

/-- The text after a sign, if there is one. -/
def unsigned : List Char → List Char
  | '+' :: cs => cs
  | '-' :: cs => cs
  | cs => cs

/-- Whether a numeral starts with a minus, and the text after the sign. -/
def signed (cs : List Char) : Bool × List Char :=
  (cs.head? = some '-', unsigned cs)

/-- The value of a hexadecimal digit. -/
def hexDigit? (c : Char) : Option Nat :=
  if '0' ≤ c && c ≤ '9' then some (c.toNat - '0'.toNat)
  else if 'a' ≤ c && c ≤ 'f' then some (c.toNat - 'a'.toNat + 10)
  else if 'A' ≤ c && c ≤ 'F' then some (c.toNat - 'A'.toNat + 10)
  else none

/-- The value of a digit in a base up to sixteen. -/
def digitIn? (base : Nat) (c : Char) : Option Nat :=
  (hexDigit? c).filter (· < base)

/-- The number that digits write in a base, after those that wrote `n`. -/
def digitsIn? (base : Nat) (n : Nat) : List Char → Option Nat
  | [] => some n
  | c :: cs =>
    match digitIn? base c with
    | none => none
    | some d => digitsIn? base (n * base + d) cs

/-- The digits of a text in which underscores may stand between two of them. -/
def separated? : List Char → Option (List Char)
  | [] => some []
  | '_' :: _ => none
  | [c] => some [c]
  | c :: '_' :: d :: cs => (separated? (d :: cs)).map (c :: ·)
  | c :: cs => (separated? cs).map (c :: ·)

/-- A text without the letters that announce a base, and an underscore after them. -/
def withoutBase (base : Nat) : List Char → List Char
  | '0' :: c :: cs =>
    if (base = 2 && (c = 'b' || c = 'B')) || (base = 8 && (c = 'o' || c = 'O'))
      || (base = 16 && (c = 'x' || c = 'X')) then
      match cs with
      | '_' :: rest => rest
      | _ => cs
    else '0' :: c :: cs
  | cs => cs

/-- The most digits of an integer in base ten. -/
def mostDigits : Nat := 4300

/-- The integer that a numeral writes in base two, eight, ten or sixteen. -/
def integerIn? (base : Nat) (cs : List Char) : Option Int := do
  let (negative, body) := signed (trimPlain (← plain? cs))
  let digits ← separated? (withoutBase base body)
  if digits.isEmpty || (base = 10 && mostDigits < digits.length) then none
  else
    let n ← digitsIn? base 0 digits
    return if negative then -(n : Int) else n

end Routewright.Text
