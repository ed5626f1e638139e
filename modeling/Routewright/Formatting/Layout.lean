import Routewright.Text.Numeral

/-!
# Layouts

After a colon a field says how its value is laid out: what fills its place and on which side, how
wide the place is, and how a number is written in it. What is laid out decides later which parts of
a layout it can do with.
-/

namespace Routewright.Formatting

/-- Why a template cannot be rendered with some arguments. -/
inductive Fault
  /-- The template breaks the rules of fields. -/
  | malformed
  /-- There is no argument at this position. -/
  | missing (index : Nat)
  /-- A field asks for an argument by a name, and arguments have none. -/
  | unnamed (name : String)
  /-- There is no such member. -/
  | noMember (name : String)
  /-- There are no items, or one is asked for by something that is no number. -/
  | noItem (name : String)
  /-- A table has nothing under this key. -/
  | noKey (key : String)
  /-- What is neither text nor a number has no layout. -/
  | noLayout
  /-- There is no character with this number. -/
  | noCharacter (number : Nat)
  /-- A value is laid out in a place that is too wide. -/
  | tooWide
  deriving DecidableEq, Repr

/-- The greatest number in a template. -/
def greatest : Nat := Nat.pow 2 63 - 1

/-- The number that digits write behind a number so far, none if something else follows them. A
number that is too great is found before what follows it. -/
def numberFrom (value : Nat) : List Char → Except Fault (Option Nat)
  | [] => .ok (some value)
  | c :: cs =>
    match Text.decimalDigit? c with
    | none => .ok none
    | some d =>
      let value := value * 10 + d
      if value ≤ greatest then numberFrom value cs else .error .malformed

/-- The number that a run of digits writes, none if there is something else in it. -/
def number? (cs : List Char) : Except Fault (Option Nat) :=
  if cs.isEmpty then .ok none else numberFrom 0 cs

/-- A run of digits of any script at the head of a text. -/
def digitsOf (cs : List Char) : List Char :=
  cs.takeWhile fun c => (Text.decimalDigit? c).isSome

/-- The side of its place that a value keeps to. -/
def isAlignment (c : Char) : Bool :=
  c = '<' || c = '>' || c = '^' || c = '='

/-- A layout. What it leaves out is none. -/
structure Layout where
  fill : Option Char
  side : Option Char
  sign : Option Char
  /-- Whether a zero that is not there must not have a sign. -/
  unsignedZero : Bool
  /-- Whether a number is written in the longer way. -/
  long : Bool
  /-- Whether the width starts with a zero, which fills the place if nothing else does. -/
  padded : Bool
  width : Nat
  separator : Option Char
  precision : Option Nat
  style : Option Char
  deriving DecidableEq, Repr

/-- The head of a text if it has a property, and what is left. -/
def headIf (p : Char → Bool) : List Char → Option Char × List Char
  | c :: cs => if p c then (some c, cs) else (none, c :: cs)
  | [] => (none, [])

/-- The fill and the side that a layout starts with, and what is left. -/
def fillAndSide : List Char → Option Char × Option Char × List Char
  | c :: d :: cs =>
    if isAlignment d then (some c, some d, cs) else (none, headIf isAlignment (c :: d :: cs))
  | cs => (none, headIf isAlignment cs)

/-- The precision after a point, and what is left. -/
def precisionOf : List Char → Except Fault (Option Nat × List Char)
  | '.' :: cs => do
    let digits := digitsOf cs
    match ← number? digits with
    | some n => return (some n, cs.drop digits.length)
    | none => throw .malformed
  | cs => .ok (none, cs)

/-- Whether the digits of a style can be separated by a sign. -/
def isSeparable (separator : Char) (style : Option Char) : Bool :=
  match style with
  | none => true
  | some c =>
    ['d', 'e', 'f', 'g', 'E', 'G', '%', 'F'].contains c
      || separator = '_' && ['b', 'o', 'x', 'X'].contains c

/-- The layout that the text after the colon of a field asks for. -/
def Layout.parse (spec : List Char) : Except Fault Layout := do
  let (fill, side, rest) := fillAndSide spec
  let (sign, rest) := headIf (fun c => c = ' ' || c = '+' || c = '-') rest
  let (unsigned, rest) := headIf (· = 'z') rest
  let (long, rest) := headIf (· = '#') rest
  let (zero, rest) := if fill.isNone then headIf (· = '0') rest else (none, rest)
  let digits := digitsOf rest
  let width := (← number? digits).getD 0
  let (comma, rest) := headIf (· = ',') (rest.drop digits.length)
  let (underscore, rest) := headIf (· = '_') rest
  if underscore.isSome && (comma.isSome || rest.head? = some ',') then throw .malformed
  let separator := comma.or underscore
  let (precision, rest) ← precisionOf rest
  let (style, rest) := headIf (fun _ => true) rest
  if rest.isEmpty && separator.all (isSeparable · style) then
    return {
      fill, side, sign, unsignedZero := unsigned.isSome, long := long.isSome
      padded := zero.isSome, width, separator, precision, style }
  else throw .malformed

/-- The widest place that a value is laid out in. -/
def widest : Nat := Nat.pow 10 9

/-- A text laid out. It cannot be written like a number. -/
def Layout.ofText (l : Layout) (value : List Char) : Except Fault (List Char) :=
  let value := match l.precision with
    | some n => value.take n
    | none => value
  let fill := l.fill.getD (if l.padded then '0' else ' ')
  let missing := l.width - value.length
  let before :=
    if l.side = some '>' then missing else if l.side = some '^' then missing / 2 else 0
  if l.side = some '=' || l.sign.isSome || l.unsignedZero || l.long || l.separator.isSome
      || l.style.any (· ≠ 's') then
    .error .malformed
  else if widest < missing then .error .tooWide
  else .ok (List.replicate before fill ++ value ++ List.replicate (missing - before) fill)

end Routewright.Formatting
