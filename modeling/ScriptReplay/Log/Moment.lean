/-!
# Moments

A moment by the calendar and the clocks of a zone: its date, the time of day, and where it lies in
its week and in its year.
-/

namespace ScriptReplay.Log

/-- A time: the seconds since the first of January 1970, and the milliseconds of the second. -/
structure Time where
  seconds : Int := 0
  milliseconds : Int := 0
  deriving Repr, DecidableEq

/-- The zone whose clocks tell the time: by how many seconds they are ahead of universal time at a
time, and what the zone is called then. -/
class Zone where
  ahead : Int → Int
  name : Int → String

/-- The zone of universal time. -/
instance Zone.universal : Zone where
  ahead _ := 0
  name _ := "UTC"

/-- A moment by the calendar. The days of the week are counted from Sunday and the days of the year
from the first of January, both from zero. -/
structure Moment where
  seconds : Int
  ahead : Int
  zone : String
  year : Int
  month : Nat
  day : Nat
  hour : Nat
  minute : Nat
  second : Nat
  weekDay : Nat
  yearDay : Nat
  deriving Repr, DecidableEq

/-- Whether a year has a leap day. -/
def isLeapYear (year : Int) : Bool :=
  year % 4 == 0 && (year % 100 != 0 || year % 400 == 0)

/-- The days of a year before its first of March. -/
def daysBeforeMarch (year : Int) : Nat :=
  if isLeapYear year then 60 else 59

/-- The moment at a number of seconds since the first of January 1970. The years of the reckoning
begin in March, so that a leap day is the last day of its year, and repeat every four hundred. -/
def Moment.ofSeconds [Zone] (seconds : Int) : Moment :=
  let ahead := Zone.ahead seconds
  let days := (seconds + ahead) / 86400
  let time := ((seconds + ahead) % 86400).toNat
  let shifted := days + 719468
  let era := shifted / 146097
  let eraDay := (shifted % 146097).toNat
  let eraYear := (eraDay - eraDay / 1460 + eraDay / 36524 - eraDay / 146096) / 365
  let marchDay := eraDay - (365 * eraYear + eraYear / 4 - eraYear / 100)
  let marchMonth := (5 * marchDay + 2) / 153
  let day := marchDay - (153 * marchMonth + 2) / 5 + 1
  let month := if marchMonth < 10 then marchMonth + 3 else marchMonth - 9
  let marchYear := eraYear + era * 400
  let year := if month ≤ 2 then marchYear + 1 else marchYear
  { seconds, ahead, zone := Zone.name seconds, year, month, day
    hour := time / 3600
    minute := time / 60 % 60
    second := time % 60
    weekDay := ((days + 4) % 7).toNat
    yearDay := if month ≤ 2 then marchDay - 306 else marchDay + daysBeforeMarch year }

/-- The names of the days of the week. -/
def weekDays : List String :=
  ["Sunday", "Monday", "Tuesday", "Wednesday", "Thursday", "Friday", "Saturday"]

/-- The names of the months. -/
def months : List String :=
  ["January", "February", "March", "April", "May", "June", "July", "August", "September",
    "October", "November", "December"]

namespace Moment

/-- The name of the day of the week. -/
def weekDayName (moment : Moment) : List Char :=
  (weekDays.getD moment.weekDay "").toList

/-- The name of the month. -/
def monthName (moment : Moment) : List Char :=
  (months.getD (moment.month - 1) "").toList

/-- The hour on a clock face. -/
def clockHour (moment : Moment) : Nat :=
  (moment.hour + 11) % 12 + 1

/-- The weeks of the year up to this day, where weeks begin with the given day. -/
def weekFrom (moment : Moment) (first : Nat) : Nat :=
  (moment.yearDay + 7 - (moment.weekDay + 7 - first) % 7) / 7

/-- The number of days of a year. -/
def yearLength (year : Int) : Nat :=
  if isLeapYear year then 366 else 365

/-- The year that the week belongs to, and its number in that year, where weeks begin on Monday and
belong to the year that has most of their days. -/
def isoWeek (moment : Moment) : Int × Nat :=
  let fromMonday := (moment.weekDay + 6) % 7
  let thursday : Int := moment.yearDay - fromMonday + 3
  if thursday < 0 then
    (moment.year - 1, ((thursday + yearLength (moment.year - 1)) / 7).toNat + 1)
  else if yearLength moment.year ≤ thursday then (moment.year + 1, 1)
  else (moment.year, (thursday / 7).toNat + 1)

/-- By how many hours and minutes the clocks are ahead of universal time or behind it, written next
to each other as one number. -/
def hoursAndMinutesAhead (moment : Moment) : Nat :=
  let minutes := moment.ahead.natAbs / 60
  minutes / 60 * 100 + minutes % 60

/-- Whether the moment lies before noon, in words. -/
def halfDay (moment : Moment) : List Char :=
  if moment.hour < 12 then ['A', 'M'] else ['P', 'M']

end Moment

end ScriptReplay.Log
