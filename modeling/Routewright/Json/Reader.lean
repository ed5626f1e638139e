import Routewright.Text.Numeral
import Routewright.Value

/-!
# Reading JSON

A reader for JSON texts that reports the first fault with its position. Besides the standard's
values it takes `NaN`, `Infinity` and `-Infinity`; a number with a fraction or an exponent is a
float, any other an integer of any size up to 4300 digits. A member written twice keeps its first
place and its last value. Values are read down to a fixed number of levels.
-/

namespace Routewright.Json

/-- What is wrong at one position of a text. -/
inductive FaultKind
  | byteOrderMark
  | value
  | propertyName
  | colon
  | comma
  | extra
  | unterminated
  | control
  | escape
  | unicodeEscape
  /-- An integer has more digits than are converted. -/
  | longInteger (digits : Nat)
  /-- Values are inside each other down to more levels than are read. -/
  | tooDeep
  deriving DecidableEq, Repr

/-- The wording of a fault without its position. -/
def FaultKind.text : FaultKind → String
  | .byteOrderMark => "Unexpected UTF-8 BOM (decode using utf-8-sig)"
  | .value => "Expecting value"
  | .propertyName => "Expecting property name enclosed in double quotes"
  | .colon => "Expecting ':' delimiter"
  | .comma => "Expecting ',' delimiter"
  | .extra => "Extra data"
  | .unterminated => "Unterminated string starting at"
  | .control => "Invalid control character at"
  | .escape => "Invalid \\escape"
  | .unicodeEscape => "Invalid \\uXXXX escape"
  | .longInteger digits =>
    "Exceeds the limit (4300 digits) for integer string conversion: value has " ++ toString digits
      ++ " digits; use sys.set_int_max_str_digits() to increase the limit"
  | .tooDeep => "Too many levels of values"

/-- A fault and the number of characters before it. -/
structure Fault where
  kind : FaultKind
  offset : Nat
  deriving DecidableEq, Repr

/-- What is left of a text, and how many characters were read. -/
structure Cursor where
  rest : List Char
  offset : Nat

/-- A step forward over characters already looked at. -/
def Cursor.skip (c : Cursor) (n : Nat) : Cursor :=
  ⟨c.rest.drop n, c.offset + n⟩

/-- The blanks of JSON. -/
def isSpace (c : Char) : Bool :=
  c = ' ' || c = '\t' || c = '\n' || c = '\r'

/-- A cursor after the blanks before it. -/
def Cursor.skipSpace (c : Cursor) : Cursor :=
  c.skip (c.rest.takeWhile isSpace).length

/-- The number of four hexadecimal digits. -/
def hexFour? (cs : List Char) : Option Nat :=
  if cs.length = 4 then Text.digitsIn? 16 0 cs else none

/-- The character of a one-letter escape. -/
def shortEscape? (c : Char) : Option Char :=
  if c = '"' || c = '\\' || c = '/' then some c
  else if c = 'b' then some '\x08'
  else if c = 'f' then some '\x0c'
  else if c = 'n' then some '\n'
  else if c = 'r' then some '\r'
  else if c = 't' then some '\t'
  else none

/-- The character of a number. Half of a surrogate pair on its own is no character: it is read as
the replacement character, and what is said of texts leaves its escape out. -/
def charOf (n : Nat) : Char :=
  if 0xD800 ≤ n && n < 0xE000 then '\ufffd' else Char.ofNat n

/-- An escape with four hexadecimal digits, from after its `u`: the character, and how many
characters were read. Two escapes that make up a surrogate pair are one character. -/
def unicodeEscape (offset : Nat) (cs : List Char) : Except Fault (Char × Nat) :=
  -- the closing quote must still follow
  if (cs.drop 4).isEmpty then .error ⟨.unicodeEscape, offset - 1⟩
  else match hexFour? (cs.take 4) with
    | none => .error ⟨.unicodeEscape, offset - 1⟩
    | some high =>
      match cs.drop 4 with
      | '\\' :: 'u' :: more =>
        if 0xD800 ≤ high && high < 0xDC00 && !(more.drop 4).isEmpty then
          match hexFour? (more.take 4) with
          | none => .error ⟨.unicodeEscape, offset + 5⟩
          | some low =>
            if 0xDC00 ≤ low && low < 0xE000 then
              .ok (Char.ofNat (0x10000 + (high - 0xD800) * 0x400 + (low - 0xDC00)), 10)
            else .ok (charOf high, 4)
        else .ok (charOf high, 4)
      | _ => .ok (charOf high, 4)

/-- The rest of a string that opened at `start`; `chars` holds its characters so far, last first,
and `skip` counts characters that an escape has already read. -/
def stringFrom (start offset : Nat) (chars : List Char) (skip : Nat) :
    List Char → Except Fault (String × Cursor)
  | [] => .error ⟨.unterminated, start⟩
  | c :: cs =>
    match skip with
    | n + 1 => stringFrom start (offset + 1) chars n cs
    | 0 =>
      if c = '"' then .ok (String.ofList chars.reverse, ⟨cs, offset + 1⟩)
      else if c = '\\' then
        match cs with
        | [] => .error ⟨.unterminated, start⟩
        | e :: rest =>
          if e = 'u' then
            match unicodeEscape (offset + 2) rest with
            | .error fault => .error fault
            | .ok (d, n) => stringFrom start (offset + 1) (d :: chars) (n + 1) cs
          else match shortEscape? e with
            | none => .error ⟨.escape, offset⟩
            | some d => stringFrom start (offset + 1) (d :: chars) 1 cs
      else if c.toNat < 0x20 then .error ⟨.control, offset⟩
      else stringFrom start (offset + 1) (c :: chars) 0 cs

/-- A number written in decimal digits. -/
def natOf (ds : List Char) : Nat :=
  ds.foldl (fun n c => n * 10 + (c.toNat - '0'.toNat)) 0

/-- A number at the cursor: sign, integer part without extra zeros, fraction, exponent. -/
def number (c : Cursor) : Except Fault (Value × Cursor) :=
  let (negative, digitsFrom) := match c.rest with
    | '-' :: cs => (true, cs)
    | cs => (false, cs)
  let whole := match digitsFrom with
    | '0' :: _ => ['0']
    | cs => cs.takeWhile Char.isDigit
  if whole.isEmpty then .error ⟨.value, c.offset⟩
  else
    let afterWhole := digitsFrom.drop whole.length
    let fraction := match afterWhole with
      | '.' :: cs => cs.takeWhile Char.isDigit
      | _ => []
    let fractionSize := if fraction.isEmpty then 0 else fraction.length + 1
    let afterFraction := afterWhole.drop fractionSize
    let (powerNegative, powerMark, powerDigits) := match afterFraction with
      | e :: cs =>
        if e = 'e' || e = 'E' then
          match cs with
          | '-' :: ds => (true, 2, ds.takeWhile Char.isDigit)
          | '+' :: ds => (false, 2, ds.takeWhile Char.isDigit)
          | ds => (false, 1, ds.takeWhile Char.isDigit)
        else (false, 0, [])
      | [] => (false, 0, [])
    let powerSize := if powerDigits.isEmpty then 0 else powerMark + powerDigits.length
    let size := (if negative then 1 else 0) + whole.length + fractionSize + powerSize
    let next := c.skip size
    if fractionSize = 0 && powerSize = 0 then
      if Text.mostDigits < whole.length then .error ⟨.longInteger whole.length, c.offset⟩
      else
        let n : Int := natOf whole
        .ok (.int (if negative then -n else n), next)
    else
      let power : Int := natOf powerDigits
      let power := (if powerNegative then -power else power) - fraction.length
      .ok (.float (Binary64.ofDecimal negative (natOf (whole ++ fraction)) power), next)

/-- The words that stand for values. -/
def wordValues : List (List Char × Value) :=
  [("null".toList, .null), ("true".toList, .bool true), ("false".toList, .bool false),
    ("NaN".toList, .float .nan), ("Infinity".toList, .float (.infinite false)),
    ("-Infinity".toList, .float (.infinite true))]

mutual

/-- The value at a cursor, of at most so many levels of arrays and objects. `fuel` bounds the calls;
every call but the first follows a character. -/
def value (levels : Nat) (fuel : Nat) (c : Cursor) : Except Fault (Value × Cursor) :=
  match fuel with
  | 0 => .error ⟨.value, c.offset⟩
  | fuel + 1 =>
    match c.rest with
    | [] => .error ⟨.value, c.offset⟩
    | '"' :: cs =>
      (stringFrom c.offset (c.offset + 1) [] 0 cs).map fun (s, next) => (.text s, next)
    | '{' :: _ =>
      if levels = 0 then .error ⟨.tooDeep, c.offset⟩
      else
        let inner := (c.skip 1).skipSpace
        match inner.rest with
        | '}' :: _ => .ok (.map [], inner.skip 1)
        | _ => (members (levels - 1) fuel [] inner).map fun (m, next) => (.map m, next)
    | '[' :: _ =>
      if levels = 0 then .error ⟨.tooDeep, c.offset⟩
      else
        let inner := (c.skip 1).skipSpace
        match inner.rest with
        | ']' :: _ => .ok (.list [], inner.skip 1)
        | _ => (elements (levels - 1) fuel inner).map fun (vs, next) => (.list vs, next)
    | cs =>
      match wordValues.find? fun w => w.1.isPrefixOf cs with
      | some (word, v) => .ok (v, c.skip word.length)
      | none => number c
termination_by structural fuel

/-- The members of an object from a member name on, after those already read. -/
def members (levels : Nat) (fuel : Nat) (before : List (Value × Value)) (c : Cursor) :
    Except Fault (List (Value × Value) × Cursor) :=
  match fuel with
  | 0 => .error ⟨.value, c.offset⟩
  | fuel + 1 =>
    match c.rest with
    | '"' :: cs => do
      let (name, c) ← stringFrom c.offset (c.offset + 1) [] 0 cs
      let c := c.skipSpace
      match c.rest with
      | ':' :: _ => do
        let (v, c) ← value levels fuel (c.skip 1).skipSpace
        let c := c.skipSpace
        let entries := Value.putEntry (.text name) v before
        match c.rest with
        | '}' :: _ => .ok (entries, c.skip 1)
        | ',' :: _ => members levels fuel entries (c.skip 1).skipSpace
        | _ => .error ⟨.comma, c.offset⟩
      | _ => .error ⟨.colon, c.offset⟩
    | _ => .error ⟨.propertyName, c.offset⟩
termination_by structural fuel

/-- The elements of an array from an element on. -/
def elements (levels : Nat) (fuel : Nat) (c : Cursor) : Except Fault (List Value × Cursor) :=
  match fuel with
  | 0 => .error ⟨.value, c.offset⟩
  | fuel + 1 => do
    let (v, c) ← value levels fuel c
    let c := c.skipSpace
    match c.rest with
    | ']' :: _ => .ok ([v], c.skip 1)
    | ',' :: _ =>
      (elements levels fuel (c.skip 1).skipSpace).map fun (vs, next) => (v :: vs, next)
    | _ => .error ⟨.comma, c.offset⟩
termination_by structural fuel

end

/-- The value of a whole text of at most so many levels of arrays and objects. -/
def parse (levels : Nat) (text : String) : Except Fault Value :=
  let cs := text.toList
  match cs with
  | '\ufeff' :: _ => .error ⟨.byteOrderMark, 0⟩
  | _ => do
    let (v, c) ← value levels (2 * cs.length + 2) (Cursor.skipSpace ⟨cs, 0⟩)
    let c := c.skipSpace
    match c.rest with
    | [] => .ok v
    | _ => .error ⟨.extra, c.offset⟩

/-- The wording of a fault with the line, column and character it stands at. -/
def Fault.message (text : String) (fault : Fault) : String :=
  match fault.kind with
  | .longInteger _ => fault.kind.text
  | kind =>
    let before := text.toList.take fault.offset
    let line := before.count '\n' + 1
    let column := (before.reverse.takeWhile (· ≠ '\n')).length + 1
    kind.text ++ ": line " ++ toString line ++ " column " ++ toString column ++ " (char "
      ++ toString fault.offset ++ ")"

end Routewright.Json
