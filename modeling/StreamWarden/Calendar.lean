import StreamWarden.Text.Decimal

/-!
# Calendar dates

Seconds since the start of 1970 as dates of the Gregorian calendar, which is
applied to all years, and times of day, both in universal time.

* `Date.ofDays` turns a count of days into a date, `Date.toDays` counts the days
  of a date: years of 365 days, a leap day every fourth year, none in three
  years of four hundred. Years are counted from March, so that the leap day ends
  a year.
* `Stamp.ofUnix` adds the time of day.
-/

namespace StreamWarden.Calendar

/-- A date of the Gregorian calendar. -/
structure Date where
  year : Int
  month : Nat
  day : Nat
  deriving DecidableEq, Repr

/-- Days from the first of March of the year 0 to the start of 1970. -/
def epochDays : Int := 719468

/-- Days in four hundred years. -/
def eraDays : Int := 146097

/-- The days of a year before its `month`, both counted from March. -/
def daysBefore (month : Nat) : Nat := (153 * month + 2) / 5

namespace Date

/-- The date that lies this many days after the start of 1970. -/
def ofDays (days : Int) : Date :=
  let z := days + epochDays
  let era := Int.fdiv z eraDays
  let dayOfEra := (Int.fmod z eraDays).toNat
  let yearOfEra := (dayOfEra - dayOfEra / 1460 + dayOfEra / 36524 - dayOfEra / 146096) / 365
  let dayOfYear := dayOfEra - (365 * yearOfEra + yearOfEra / 4 - yearOfEra / 100)
  let month := (5 * dayOfYear + 2) / 153
  let year : Int := era * 400 + yearOfEra
  { year := if month < 10 then year else year + 1
    month := if month < 10 then month + 3 else month - 9
    day := dayOfYear - daysBefore month + 1 }

/-- The days from the start of 1970 to a date. -/
def toDays (d : Date) : Int :=
  let year := if d.month ≤ 2 then d.year - 1 else d.year
  let month := if d.month ≤ 2 then d.month + 9 else d.month - 3
  let era := Int.fdiv year 400
  let yearOfEra := (Int.fmod year 400).toNat
  let dayOfYear := daysBefore month + d.day - 1
  let dayOfEra := yearOfEra * 365 + yearOfEra / 4 - yearOfEra / 100 + dayOfYear
  era * eraDays + dayOfEra - epochDays

end Date

/-- A date and a time of day. -/
structure Stamp where
  date : Date
  hour : Nat
  minute : Nat
  second : Nat
  deriving DecidableEq, Repr

namespace Stamp

/-- Seconds in a day. -/
def daySeconds : Int := 86400

/-- The date and time that lie this many seconds after the start of 1970. -/
def ofUnix (seconds : Int) : Stamp :=
  let rest := (Int.fmod seconds daySeconds).toNat
  { date := Date.ofDays (Int.fdiv seconds daySeconds)
    hour := rest / 3600
    minute := rest % 3600 / 60
    second := rest % 60 }

/-- The seconds from the start of 1970 to a date and time. -/
def toUnix (s : Stamp) : Int :=
  s.date.toDays * daySeconds + (s.hour * 3600 + s.minute * 60 + s.second : Nat)

/-- A year in at least four digits; a year that needs more, or lies before the
year 0, carries its sign. -/
def yearText (year : Int) : List Char :=
  if year < 0 then '-' :: Text.Decimal.padded 4 year.natAbs
  else if year > 9999 then '+' :: Text.Decimal.padded 4 year.natAbs
  else Text.Decimal.padded 4 year.natAbs

/-- The text of a date and time, without separators but one line between the
two. -/
def text (s : Stamp) : List Char :=
  yearText s.date.year ++ Text.Decimal.padded 2 s.date.month ++
    Text.Decimal.padded 2 s.date.day ++ '_' :: Text.Decimal.padded 2 s.hour ++
    Text.Decimal.padded 2 s.minute ++ Text.Decimal.padded 2 s.second

end Stamp

end StreamWarden.Calendar
