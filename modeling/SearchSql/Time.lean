/-!
# Points in time

Attributes hold a point in time as its number of seconds from the beginning of 1970, in
universal time and without leap seconds.
-/

namespace SearchSql

/-- A date of the Gregorian calendar with a time of day, in universal time. -/
structure CivilTime where
  /-- The year, which may be before the year one. -/
  year : Int
  /-- The month, from one to twelve. -/
  month : Int
  /-- The day of the month, from one. -/
  day : Int
  /-- The hour of the day. -/
  hour : Int
  /-- The minute of the hour. -/
  minute : Int
  /-- The second of the minute. -/
  second : Int

namespace CivilTime

/-- Days from the beginning of 1970 to the date. Years are counted from March, so that a leap day
ends its year, and months from March have 153 days in every five. -/
def days (time : CivilTime) : Int :=
  let year := if time.month ≤ 2 then time.year - 1 else time.year
  let monthFromMarch := (time.month + 9) % 12
  let dayOfYear := (153 * monthFromMarch + 2) / 5 + time.day - 1
  365 * year + year / 4 - year / 100 + year / 400 + dayOfYear - 719468

/-- Seconds from the beginning of 1970. -/
def unixSeconds (time : CivilTime) : Int :=
  ((time.days * 24 + time.hour) * 60 + time.minute) * 60 + time.second

end CivilTime

end SearchSql
