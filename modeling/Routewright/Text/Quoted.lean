import Routewright.Text.Printable

/-!
# Quoted texts

Two ways of writing a text between quotes. `shown` is the form of messages: single quotes unless
the text holds one and no double quote, and an escape for every character that is not printable.
`jsonString` is the form of JSON, over ASCII alone or with the other characters as they are.
-/

namespace Routewright.Text

/-- The lower case hexadecimal digits of `n`, at least `width` of them. -/
def hex (width n : Nat) : List Char :=
  let digits := Nat.toDigits 16 n
  List.replicate (width - digits.length) '0' ++ digits

/-- The quote a shown text stands in. -/
def quoteFor (cs : List Char) : Char :=
  if cs.contains '\'' && !cs.contains '"' then '"' else '\''

/-- One character of a shown text inside `quote`. -/
def shownChar (quote c : Char) : List Char :=
  if c = quote || c = '\\' then ['\\', c]
  else if c = '\n' then ['\\', 'n']
  else if c = '\r' then ['\\', 'r']
  else if c = '\t' then ['\\', 't']
  else if isPrintable c then [c]
  else if c.toNat < 0x100 then '\\' :: 'x' :: hex 2 c.toNat
  else if c.toNat < 0x10000 then '\\' :: 'u' :: hex 4 c.toNat
  else '\\' :: 'U' :: hex 8 c.toNat

/-- A text as messages show it. -/
def shown (s : String) : String :=
  let cs := s.toList
  let quote := quoteFor cs
  String.ofList (quote :: cs.flatMap (shownChar quote) ++ [quote])

/-- The escape of one UTF-16 unit. -/
def jsonUnit (n : Nat) : List Char :=
  '\\' :: 'u' :: hex 4 n

/-- A character by its UTF-16 units, each escaped. -/
def jsonUnits (c : Char) : List Char :=
  let n := c.toNat
  if n < 0x10000 then jsonUnit n
  else jsonUnit (0xD800 + (n - 0x10000) / 0x400) ++ jsonUnit (0xDC00 + (n - 0x10000) % 0x400)

/-- Which characters of a JSON string are escaped beyond those that must be. -/
inductive JsonCharset
  | ascii
  | unicode
  deriving DecidableEq, Repr

/-- One character of a JSON string. -/
def jsonChar (charset : JsonCharset) (c : Char) : List Char :=
  if c = '"' || c = '\\' then ['\\', c]
  else if c = '\n' then ['\\', 'n']
  else if c = '\r' then ['\\', 'r']
  else if c = '\t' then ['\\', 't']
  else if c = '\x0c' then ['\\', 'f']
  else if c = '\x08' then ['\\', 'b']
  else if c.toNat < 0x20 then jsonUnits c
  else if charset = .ascii && 0x7F ≤ c.toNat then jsonUnits c
  else [c]

/-- A text as a JSON string. -/
def jsonString (charset : JsonCharset) (s : String) : String :=
  String.ofList ('"' :: s.toList.flatMap (jsonChar charset) ++ ['"'])

end Routewright.Text
