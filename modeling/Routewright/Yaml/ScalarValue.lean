import Routewright.Text.Base64
import Routewright.Text.Case
import Routewright.Value
import Routewright.Yaml.Resolution

/-!
# Values of scalars

A scalar is read by its tag: as a number, a truth value, a date, bytes or text. A number may be
written in base sixty, its parts separated by colons. What is told apart in a fault is why a scalar
has the form that its tag asks for and is still no such value.
-/

namespace Routewright.Yaml

/-- Why a node has no value. -/
inductive NodeFault
  /-- The tag is unknown or does not fit, or a key is a collection. -/
  | unsupported
  /-- A number is written in no known way. -/
  | number
  /-- A number has no digit at all. -/
  | emptyNumber
  /-- A number has too many parts. -/
  | overflow
  /-- A truth value is no known word. -/
  | truth
  /-- A date or time is not in the calendar. -/
  | calendar
  /-- A date or time is written in no known way. -/
  | notMoment
  /-- A date or time is no scalar. -/
  | momentInside
  /-- A mapping that stands for the scalar in it is that scalar itself. -/
  | endless
  deriving DecidableEq, Repr

/-- The result of reading a number. -/
def numberOr {α : Type} (found : Option α) : Except NodeFault α :=
  match found with
  | some x => .ok x
  | none => .error .number

/-- The sum of the parts of a number in base sixty, the least first. -/
def sexagesimal (weight : Int) : List Int → Int
  | [] => 0
  | part :: rest => part * weight + sexagesimal (weight * 60) rest

/-- The integer that a scalar writes. -/
def integer (text : String) : Except NodeFault Int := do
  let cs := text.toList.filter (· ≠ '_')
  if cs.isEmpty then throw .emptyNumber
  let (negative, body) := Text.signed cs
  let magnitude ← match body with
    | [] => throw .emptyNumber
    | ['0'] => pure 0
    | '0' :: 'b' :: ds => numberOr (Text.integerIn? 2 ds)
    | '0' :: 'x' :: ds => numberOr (Text.integerIn? 16 ds)
    | '0' :: ds => numberOr (Text.integerIn? 8 ('0' :: ds))
    | ds =>
      if ds.contains ':' then do
        let parts ← numberOr ((colonPieces ds).mapM (Text.integerIn? 10))
        pure (sexagesimal 1 parts.reverse)
      else numberOr (Text.integerIn? 10 ds)
  return if negative then -magnitude else magnitude

/-- The exponent at the end of a decimal number. -/
def exponent? : List Char → Option Int
  | [] => some 0
  | c :: cs =>
    if c ≠ 'e' then none
    else
      let (negative, ds) := Text.signed cs
      if ds.isEmpty then none
      else (Text.digitsIn? 10 0 ds).map fun n => if negative then -(n : Int) else n

/-- A float in lower case, with blanks around it and a sign. -/
def decimal? (cs : List Char) : Option Binary64 := do
  let (negative, body) := Text.signed (Text.trimPlain (← Text.plain? cs))
  if String.ofList body ∈ ["inf", "infinity"] then return .infinite negative
  if String.ofList body = "nan" then return .nan
  let whole := body.takeWhile Char.isDigit
  let rest := body.drop whole.length
  let (fraction, rest) := match rest with
    | '.' :: cs => (cs.takeWhile Char.isDigit, cs.dropWhile Char.isDigit)
    | _ => ([], rest)
  if whole.isEmpty && fraction.isEmpty then none
  else
    let n ← Text.digitsIn? 10 0 (whole ++ fraction)
    return Binary64.ofDecimal negative n ((← exponent? rest) - fraction.length)

/-- The sum of the parts of a float in base sixty, the least first. No part may have a weight beyond
the range of floats. -/
def sexagesimalFloat (weight : Nat) (sum : Binary64) :
    List Binary64 → Except NodeFault Binary64
  | [] => .ok sum
  | part :: rest =>
    match Binary64.ofRatio false weight 1 with
    | .infinite _ => .error .overflow
    | w => sexagesimalFloat (weight * 60) (sum.add (part.mul w)) rest

/-- A float without its underscores and in lower case, cut into its sign and the rest. -/
def floatParts (text : String) : Bool × List Char :=
  Text.signed (Text.lower (text.toList.filter (· ≠ '_')))

/-- The spelling of what is no number. -/
def nanSpelling : List Char := ".nan".toList

/-- The float that a scalar writes. -/
def float (text : String) : Except NodeFault Binary64 := do
  if text.toList.all (· = '_') then throw .emptyNumber
  let (negative, body) := floatParts text
  let magnitude ←
    if body = ".inf".toList then pure (Binary64.infinite false)
    else if body = nanSpelling then pure .nan
    else if body.contains ':' then do
      let digits ← numberOr ((colonPieces body).mapM decimal?)
      sexagesimalFloat 1 (Binary64.zero false) digits.reverse
    else numberOr (decimal? body)
  return if negative then magnitude.neg else magnitude

/-- The truth value that a word stands for in any case. -/
def truth (text : String) : Except NodeFault Bool :=
  let word := String.ofList (Text.lower text.toList)
  if word ∈ ["yes", "true", "on"] then .ok true
  else if word ∈ ["no", "false", "off"] then .ok false
  else .error .truth

/-- The microseconds that the digits of a fraction write. -/
def micros (fraction : List Char) : Nat :=
  let ds := fraction.take 6
  (Text.digitsIn? 10 0 (ds ++ List.replicate (6 - ds.length) '0')).getD 0

/-- The minutes of a time zone. -/
def zoneMinutes : Option (Bool × Nat × Nat) → Int
  | none => 0
  | some (negative, hours, minutes) =>
    let n : Int := (hours * 60 + minutes : Nat)
    if negative then -n else n

/-- The date or time that a scalar writes. -/
def moment (text : String) : Except NodeFault Moment :=
  match writtenMoment? false (withoutLastBreak text.toList) with
  | none => .error .notMoment
  | some w =>
    let found := match w.time with
      | none => Moment.date? w.year w.month w.day
      | some (hour, minute, second) =>
        Moment.dateTime? w.year w.month w.day hour minute second (micros w.fraction)
          (w.zone.map zoneMinutes)
    match found with
    | some m => .ok m
    | none => .error .calendar

/-- The bytes that a scalar writes. -/
def bytes (text : String) : Except NodeFault (List UInt8) :=
  if text.toList.all fun c => c.toNat < 0x80 then
    match Text.base64? text.toList with
    | some bs => .ok bs
    | none => .error .unsupported
  else .error .unsupported

/-- The value of a text under the tag of a scalar. -/
def scalarValue (tag : Tag) (text : String) : Except NodeFault Value :=
  match tag with
  | .null => .ok .null
  | .truth => (truth text).map .bool
  | .int => (integer text).map .int
  | .float => (float text).map .float
  | .text => .ok (.text text)
  | .bytes => (bytes text).map .bytes
  | .moment => (moment text).map .moment
  | _ => .error .unsupported

end Routewright.Yaml
