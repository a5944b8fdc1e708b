import Marginalia.Text

/-!
# Moments

A moment is a date and a time of day in universal time. `ofSeconds` finds it from the time passed
since the start of 1970, and `text` writes it. Fractions of a second are written to the
thousandth, the millionth or the billionth, whichever is exact, and left out if there are none.
-/

namespace Marginalia

/-- A date and a time of day in universal time. -/
structure Moment where
  /-- The year. -/
  year : Nat
  /-- The month from 1. -/
  month : Nat
  /-- The day of the month from 1. -/
  day : Nat
  /-- The hour from 0. -/
  hour : Nat
  /-- The minute from 0. -/
  minute : Nat
  /-- The second from 0. -/
  second : Nat
  /-- The billionths of a second. -/
  nanosecond : Nat
deriving DecidableEq, Repr, Inhabited

namespace Moment

/-- The moment that lies so many seconds and billionths of a second behind the start of 1970.
Years are counted from March, so that a leap day ends its year; 400 years have 146097 days, and
the months from March to January have 153 days in every five. -/
def ofSeconds (seconds nanosecond : Nat) : Moment :=
  let day := seconds / 86400 + 719468
  let inEra := day % 146097
  let yearInEra := (inEra - inEra / 1460 + inEra / 36524 - inEra / 146096) / 365
  let inYear := inEra - (365 * yearInEra + yearInEra / 4 - yearInEra / 100)
  let fromMarch := (5 * inYear + 2) / 153
  let month := if fromMarch < 10 then fromMarch + 3 else fromMarch - 9
  { year := 400 * (day / 146097) + yearInEra + if month ≤ 2 then 1 else 0
    month
    day := inYear - (153 * fromMarch + 2) / 5 + 1
    hour := seconds / 3600 % 24
    minute := seconds / 60 % 60
    second := seconds % 60
    nanosecond }

/-- A number with zeros in front up to a width. -/
def padded (width n : Nat) : Text :=
  let digits := Text.ofNat n
  List.replicate (width - digits.length) '0' ++ digits

/-- The fraction of a second behind a point. -/
def fraction (nanosecond : Nat) : Text :=
  if nanosecond = 0 then []
  else if nanosecond % 1000000 = 0 then '.' :: padded 3 (nanosecond / 1000000)
  else if nanosecond % 1000 = 0 then '.' :: padded 6 (nanosecond / 1000)
  else '.' :: padded 9 nanosecond

/-- The moment in writing. -/
def text (m : Moment) : Text :=
  padded 4 m.year ++ '-' :: padded 2 m.month ++ '-' :: padded 2 m.day ++ 'T' ::
    padded 2 m.hour ++ ':' :: padded 2 m.minute ++ ':' :: padded 2 m.second ++
    fraction m.nanosecond ++ "+00:00".toList

end Moment

end Marginalia
