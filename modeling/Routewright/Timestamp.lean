import Routewright.Moment

/-!
# Timestamps

A time as part of the name of a file: the date and the time of day in digits, so that names in order
are times in order.
-/

namespace Routewright.Timestamp

/-- The length of a year in days. -/
def yearLength (year : Nat) : Nat :=
  if Moment.isLeap year then 366 else 365

theorem yearLength_pos (year : Nat) : 0 < yearLength year := by
  unfold yearLength; split <;> decide

/-- The year that holds a day counted from the start of a year, and the day counted from the start
of its own. -/
def yearAndDay (year day : Nat) : Nat × Nat :=
  if day < yearLength year then (year, day)
  else yearAndDay (year + 1) (day - yearLength year)
termination_by day
decreasing_by
  have := yearLength_pos year
  omega

/-- The month that holds a day counted from the start of the first of some months, and the day of
that month. -/
def monthAndDay (year day : Nat) : List Nat → Nat × Nat
  | [] => (12, day + 1)
  | month :: rest =>
    if day < Moment.daysIn year month then (month, day + 1)
    else monthAndDay year (day - Moment.daysIn year month) rest

/-- The timestamp of a time in seconds since the start of 1970. -/
def ofSeconds (seconds : Nat) : String :=
  let (year, day) := yearAndDay 1970 (seconds / 86400)
  let (month, day) := monthAndDay year day ((List.range 12).map (· + 1))
  let rest := seconds % 86400
  let two := Moment.padded 2
  Moment.padded 4 year ++ two month ++ two day ++ "-"
    ++ two (rest / 3600) ++ two (rest / 60 % 60) ++ two (rest % 60)

end Routewright.Timestamp
