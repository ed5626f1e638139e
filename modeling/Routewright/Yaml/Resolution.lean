import Routewright.Text.Lines
import Routewright.Text.Numeral

/-!
# Tags and the scalars they are given to

A tag says what kind of value a node stands for. A plain scalar without a tag gets one by its form:
the truth values, numbers, dates and the empty value are recognised by their spelling, and all else
is text.
-/

namespace Routewright.Yaml

/-- The kind of value that a node stands for. -/
inductive Tag
  | null
  | truth
  | int
  | float
  | text
  | bytes
  | moment
  | list
  | map
  | set
  | orderedMap
  | pairs
  /-- The key under which other mappings are merged. -/
  | merge
  /-- The key of a default value. -/
  | defaultKey
  | unknown
  deriving DecidableEq, Repr

/-- What stands before the names of the standard tags. -/
def standardAddress : String := "tag:yaml.org,2002:"

/-- The tag of an address. -/
def Tag.ofAddress (s : String) : Tag :=
  let named : List (String × Tag) :=
    [("null", .null), ("bool", .truth), ("int", .int), ("float", .float), ("str", .text),
      ("binary", .bytes), ("timestamp", .moment), ("seq", .list), ("map", .map), ("set", .set),
      ("omap", .orderedMap), ("pairs", .pairs), ("merge", .merge), ("value", .defaultKey)]
  ((named.find? fun e => standardAddress ++ e.1 = s).map Prod.snd).getD .unknown

/-! ## Forms of numbers and dates -/

/-- A digit or an underscore. -/
def isDigitMark (c : Char) : Bool :=
  c.isDigit || c = '_'

/-- A digit of a number in a base up to sixteen. -/
def isBaseDigit (base : Nat) (c : Char) : Bool :=
  if c.isDigit then c.toNat - '0'.toNat < base
  else base = 16 && (('a' ≤ c && c ≤ 'f') || ('A' ≤ c && c ≤ 'F'))

/-- Whether a text is a digit followed by digits and underscores. -/
def isDigits : List Char → Bool
  | [] => false
  | c :: cs => c.isDigit && cs.all isDigitMark

/-- Whether a text is two digits of a number below sixty, or one digit. -/
def isSexagesimal : List Char → Bool
  | [a] => a.isDigit
  | [a, b] => '0' ≤ a && a ≤ '5' && b.isDigit
  | _ => false

/-- The pieces of a text between colons. -/
def colonPieces (cs : List Char) : List (List Char) :=
  Text.pieces ':' cs

/-- Whether a text is an integer, sign apart. -/
def isUnsignedInt (cs : List Char) : Bool :=
  match cs with
  | '0' :: 'b' :: ds => !ds.isEmpty && ds.all fun c => isBaseDigit 2 c || c = '_'
  | '0' :: 'x' :: ds => !ds.isEmpty && ds.all fun c => isBaseDigit 16 c || c = '_'
  | ['0'] => true
  | '0' :: ds => ds.all fun c => isBaseDigit 8 c || c = '_'
  | _ =>
    match colonPieces cs with
    | [ds] => isDigits ds
    | first :: rest => isDigits first && rest.all isSexagesimal
    | [] => false

/-- Whether a text is nothing, or an exponent with its sign. -/
def isExponent : List Char → Bool
  | [] => true
  | e :: sign :: ds =>
    (e = 'e' || e = 'E') && (sign = '+' || sign = '-') && !ds.isEmpty && ds.all Char.isDigit
  | _ => false

/-- Whether a text is a float: digits around a point, parts of sixty before a point, or one of the
words for what is no number. A leading point takes no sign. -/
def isFloat (cs : List Char) : Bool :=
  let body := Text.unsigned cs
  let before := body.takeWhile (· ≠ '.')
  match body.drop before.length with
  | [] => false
  | _ :: after =>
    let fraction := after.takeWhile isDigitMark
    let tail := after.drop fraction.length
    if before.isEmpty then
      (body.length = cs.length && isDigits fraction && isExponent tail)
        || String.ofList after ∈ ["inf", "Inf", "INF"]
        || (body.length = cs.length && String.ofList after ∈ ["nan", "NaN", "NAN"])
    else if before.contains ':' then
      match colonPieces before with
      | first :: rest => isDigits first && rest.all isSexagesimal && tail.isEmpty
      | [] => false
    else isDigits before && isExponent tail

/-- The parts of a written date or moment. `offset` holds the sign, hours and minutes of a time
zone, and no numbers for the zone at zero. -/
structure WrittenMoment where
  year : Nat
  month : Nat
  day : Nat
  time : Option (Nat × Nat × Nat) := none
  fraction : List Char := []
  zone : Option (Option (Bool × Nat × Nat)) := none
  deriving DecidableEq, Repr

/-- A number of `least` to `most` digits at the head of a text, and the rest. -/
def number? (least most : Nat) (cs : List Char) : Option (Nat × List Char) :=
  let ds := (cs.take most).takeWhile Char.isDigit
  if ds.length < least then none
  else some (ds.foldl (fun n d => n * 10 + (d.toNat - '0'.toNat)) 0, cs.drop ds.length)

/-- The text after a given character. -/
def after? (c : Char) : List Char → Option (List Char)
  | [] => none
  | d :: ds => if d = c then some ds else none

/-- The time zone at the end of a moment. -/
def zone? (cs : List Char) : Option (Option (Option (Bool × Nat × Nat))) :=
  match cs.dropWhile fun c => c = ' ' || c = '\t' with
  | [] => if cs.isEmpty then some none else none
  | ['Z'] => some (some none)
  | sign :: ds =>
    if sign ≠ '+' && sign ≠ '-' then none
    else do
      let (hours, rest) ← number? 1 2 ds
      if rest.isEmpty then return some (some (sign = '-', hours, 0))
      let (minutes, rest) ← number? 2 2 (← after? ':' rest)
      if rest.isEmpty then return some (some (sign = '-', hours, minutes)) else none

/-- The time of a moment after its date. -/
def time? (date : WrittenMoment) (cs : List Char) : Option WrittenMoment := do
  let start ← match cs with
    | 'T' :: rest | 't' :: rest => some rest
    | _ =>
      let rest := cs.dropWhile fun c => c = ' ' || c = '\t'
      if rest.length < cs.length then some rest else none
  let (hour, rest) ← number? 1 2 start
  let (minute, rest) ← number? 2 2 (← after? ':' rest)
  let (second, rest) ← number? 2 2 (← after? ':' rest)
  let (fraction, rest) := match rest with
    | '.' :: cs => (cs.takeWhile Char.isDigit, cs.dropWhile Char.isDigit)
    | _ => ([], rest)
  let zone ← zone? rest
  return { date with time := some (hour, minute, second), fraction, zone }

/-- A date, and a time if there is one. With `padded`, a date alone has two digits for its month and
day. -/
def writtenMoment? (padded : Bool) (cs : List Char) : Option WrittenMoment := do
  let (year, rest) ← number? 4 4 cs
  let (month, monthRest) ← number? 1 2 (← after? '-' rest)
  let (day, dayRest) ← number? 1 2 (← after? '-' monthRest)
  let date : WrittenMoment := { year, month, day }
  if dayRest.isEmpty then
    if padded && cs.length ≠ 10 then none else return date
  else time? date dayRest

/-! ## The tag of a plain scalar -/

/-- The spellings of the truth values. -/
def truthWords : List String :=
  ["yes", "Yes", "YES", "no", "No", "NO", "true", "True", "TRUE", "false", "False", "FALSE", "on",
    "On", "ON", "off", "Off", "OFF"]

/-- The spellings of the empty value. -/
def nullWords : List String :=
  ["~", "null", "Null", "NULL", ""]

/-- A text without the line feed at its end, if there is one. -/
def withoutLastBreak (cs : List Char) : List Char :=
  if cs.getLast? = some '\n' then cs.dropLast else cs

/-- The signs that stand for marks of nodes and for no value. -/
def reservedWords : List String :=
  ["!", "&", "*"]

/-- The tag of a scalar by its form. -/
def formTag (cs : List Char) : Tag :=
  let s := String.ofList cs
  if s ∈ truthWords then .truth
  else if isFloat cs then .float
  else if isUnsignedInt (Text.unsigned cs) then .int
  else if s = "<<" then .merge
  else if s ∈ nullWords then .null
  else if (writtenMoment? true cs).isSome then .moment
  else if s = "=" then .defaultKey
  else if s ∈ reservedWords then .unknown
  else .text

/-- The tag of a plain scalar without one. A line feed at the end does not change the form of a
scalar that is more than that. -/
def plainTag (s : String) : Tag :=
  if s = "\n" then .text else formTag (withoutLastBreak s.toList)

end Routewright.Yaml
