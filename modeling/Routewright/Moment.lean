/-!
# Dates and times

A calendar date, or a date with a time of day and perhaps an offset from universal time.
`Moment.date?` and `Moment.dateTime?` refuse what the calendar does not have; `text` and `shown` are
the plain and the detailed form.
-/

namespace Routewright

/-- A point in the calendar. The offset is in minutes east of universal time. -/
inductive Moment
  | date (year month day : Nat)
  | dateTime (year month day hour minute second micro : Nat) (offset : Option Int)
  deriving DecidableEq, Repr

namespace Moment

/-- Leap years of the Gregorian calendar. -/
def isLeap (year : Nat) : Bool :=
  year % 4 = 0 && (year % 100 ≠ 0 || year % 400 = 0)

/-- The length of a month, zero for a number that is no month. -/
def daysIn (year month : Nat) : Nat :=
  if month = 2 then (if isLeap year then 29 else 28)
  else if month ∈ [4, 6, 9, 11] then 30
  else if 1 ≤ month && month ≤ 12 then 31
  else 0

/-- Whether a date exists in the years 1 to 9999. -/
def isDate (year month day : Nat) : Bool :=
  1 ≤ year && year ≤ 9999 && 1 ≤ day && day ≤ daysIn year month

/-- A date that exists. -/
def date? (year month day : Nat) : Option Moment :=
  if isDate year month day then some (.date year month day) else none

/-- A date and time of day that exist, with an offset of less than a day. -/
def dateTime? (year month day hour minute second micro : Nat) (offset : Option Int) :
    Option Moment :=
  let timeOk := hour < 24 && minute < 60 && second < 60
  let offsetOk := match offset with
    | some o => o.natAbs < 24 * 60
    | none => true
  if isDate year month day && timeOk && offsetOk then
    some (.dateTime year month day hour minute second micro offset)
  else none

/-- A number with zeros in front up to a width. -/
def padded (width n : Nat) : String :=
  let ds := Nat.toDigits 10 n
  String.ofList (List.replicate (width - ds.length) '0' ++ ds)

/-- The plain form of a date. -/
def dateText (year month day : Nat) : String :=
  padded 4 year ++ "-" ++ padded 2 month ++ "-" ++ padded 2 day

/-- The plain form: date, time of day, a fraction unless it is zero, and the offset if there is
one. -/
def text : Moment → String
  | .date y m d => dateText y m d
  | .dateTime y m d h mi s us offset =>
    dateText y m d ++ " " ++ padded 2 h ++ ":" ++ padded 2 mi ++ ":" ++ padded 2 s
      ++ (if us = 0 then "" else "." ++ padded 6 us)
      ++ match offset with
        | none => ""
        | some o =>
          (if o < 0 then "-" else "+") ++ padded 2 (o.natAbs / 60) ++ ":"
            ++ padded 2 (o.natAbs % 60)

/-- The detailed form of an offset, as days and seconds of which only the days may be negative. -/
def shownOffset (offset : Int) : String :=
  if offset = 0 then "datetime.timezone.utc"
  else
    let days := offset.fdiv 1440
    let seconds := (offset - days * 1440) * 60
    let parts :=
      (if days = 0 then [] else ["days=" ++ toString days])
        ++ (if seconds = 0 then [] else ["seconds=" ++ toString seconds])
    "datetime.timezone(datetime.timedelta(" ++ ", ".intercalate parts ++ "))"

/-- The detailed form; a fraction, and then the seconds, are left out when they are zero. -/
def shown : Moment → String
  | .date y m d =>
    "datetime.date(" ++ ", ".intercalate ([y, m, d].map toString) ++ ")"
  | .dateTime y m d h mi s us offset =>
    let fields := [y, m, d, h, mi] ++
      if us ≠ 0 then [s, us] else if s ≠ 0 then [s] else []
    let zone := match offset with
      | none => []
      | some o => ["tzinfo=" ++ shownOffset o]
    "datetime.datetime(" ++ ", ".intercalate (fields.map toString ++ zone) ++ ")"

/-- The days of a year before a month. -/
def daysBefore (year : Nat) : Nat → Nat
  | 0 => 0
  | month + 1 => daysBefore year month + daysIn year month

/-- Minutes since the start of the calendar, for comparing moments with offsets. -/
def minutes (year month day hour minute : Nat) : Int :=
  let before := year - 1
  let days := before * 365 + before / 4 - before / 100 + before / 400 + daysBefore year month + day
  (days * 1440 + hour * 60 + minute : Nat)

/-- Equality of what two moments denote: with offsets on both sides the instants count. -/
def same : Moment → Moment → Bool
  | .date y m d, .date y' m' d' => y = y' && m = m' && d = d'
  | .dateTime y m d h mi s us none, .dateTime y' m' d' h' mi' s' us' none =>
    [y, m, d, h, mi, s, us] = [y', m', d', h', mi', s', us']
  | .dateTime y m d h mi s us (some o), .dateTime y' m' d' h' mi' s' us' (some o') =>
    minutes y m d h mi - o = minutes y' m' d' h' mi' - o' && s = s' && us = us'
  | _, _ => false

end Moment

end Routewright
