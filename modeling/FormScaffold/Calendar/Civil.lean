/-!
# Instants and dates

Points in time, and the dates and times of day that they have in universal time.
-/

namespace FormScaffold.Calendar

/-!
## Instants

An instant counts seconds from the start of 1970 in universal time, with a part of
a second in nanoseconds.  A nanosecond part of `10 ^ 9` or more lies in a leap
second, which is shown as second sixty of its minute.
-/

/-- An instant in universal time. -/
structure Instant where
  seconds : Int
  nanos : Nat
  deriving DecidableEq, Repr

/-- Nanoseconds of one second. -/
def nanosPerSecond : Nat := 1000000000

/-- Seconds of one day. -/
def secondsPerDay : Int := 86400

namespace Instant

/-- The earlier of two instants comes first; leap seconds come last in their second. -/
def before (a b : Instant) : Bool :=
  decide (a.seconds < b.seconds) || (a.seconds == b.seconds && decide (a.nanos < b.nanos))

/-- Whole seconds since midnight. -/
def secondOfDay (t : Instant) : Nat := (t.seconds % secondsPerDay).toNat

/-- Days since the first of January 1970. -/
def day (t : Instant) : Int := t.seconds / secondsPerDay

/-- The instant lies in a leap second. -/
def isLeap (t : Instant) : Bool := decide (nanosPerSecond ≤ t.nanos)

/-- Nanoseconds from `a` to `b`.  A leap second of the earlier instant counts when
the later one lies beyond its second. -/
def nanosBetween (a b : Instant) : Int :=
  let leap : Int :=
    if a.secondOfDay < b.secondOfDay && a.isLeap then 1
    else if b.secondOfDay < a.secondOfDay && b.isLeap then -1
    else 0
  (b.seconds - a.seconds + leap) * nanosPerSecond + ((b.nanos : Int) - a.nanos)

/-- Whole milliseconds from `a` to `b`, cut towards zero. -/
def millisecondsBetween (a b : Instant) : Int := Int.tdiv (nanosBetween a b) 1000000

end Instant

/-!
## Civil dates

Days counted from 1970 as years, months and days of the proleptic Gregorian
calendar, and back.  Years are counted from March, so that the leap day is the last
day of its year, in eras of four hundred years.
-/

/-- A date of the Gregorian calendar. -/
structure Date where
  year : Int
  month : Nat
  day : Nat
  deriving DecidableEq, Repr

/-- Days of one era of four hundred years. -/
def daysPerEra : Int := 146097

/-- Days from the first of March of year zero to the first of January 1970. -/
def epochOffset : Int := 719468

/-- The date of a day counted from 1970. -/
def Date.ofDay (n : Int) : Date :=
  let z := n + epochOffset
  let era := z / daysPerEra
  let doe := (z % daysPerEra).toNat
  let yoe := (doe - doe / 1460 + doe / 36524 - doe / 146096) / 365
  let doy := doe - (365 * yoe + yoe / 4 - yoe / 100)
  let mp := (5 * doy + 2) / 153
  let day := doy - (153 * mp + 2) / 5 + 1
  let month := if mp < 10 then mp + 3 else mp - 9
  let year : Int := yoe + era * 400
  ⟨if month ≤ 2 then year + 1 else year, month, day⟩

/-- The day of a date, counted from 1970. -/
def Date.toDay (d : Date) : Int :=
  let y := if d.month ≤ 2 then d.year - 1 else d.year
  let era := y / 400
  let yoe := (y % 400).toNat
  let mp := (d.month + 9) % 12
  let doy := (153 * mp + 2) / 5 + d.day - 1
  let doe := yoe * 365 + yoe / 4 - yoe / 100 + doy
  era * daysPerEra + doe - epochOffset

/-- The year has a leap day. -/
def isLeapYear (y : Int) : Bool := y % 4 == 0 && (y % 100 != 0 || y % 400 == 0)

/-- Number of days of a month. -/
def daysInMonth (year : Int) (month : Nat) : Nat :=
  if month == 2 then if isLeapYear year then 29 else 28
  else if month == 4 || month == 6 || month == 9 || month == 11 then 30
  else 31

/-- Month and day are in range for the year. -/
def Date.isValid (d : Date) : Bool :=
  decide (1 ≤ d.month) && decide (d.month ≤ 12) && decide (1 ≤ d.day)
    && decide (d.day ≤ daysInMonth d.year d.month)

/-- Day of the year, from one. -/
def Date.ordinal (d : Date) : Nat := (d.toDay - (Date.mk d.year 1 1).toDay).toNat + 1

/-- Day of the week, from Sunday as zero. -/
def Date.weekday (d : Date) : Nat := ((d.toDay + 4) % 7).toNat

/-- Date and time of day of an instant. -/
structure Moment where
  date : Date
  hour : Nat
  minute : Nat
  second : Nat
  nanos : Nat
  deriving Repr

/-- The civil reading of an instant; a leap second shows as second sixty. -/
def Instant.moment (t : Instant) : Moment :=
  let s := t.secondOfDay
  let leap := if t.isLeap then 1 else 0
  ⟨Date.ofDay t.day, s / 3600, s / 60 % 60, s % 60 + leap, t.nanos % nanosPerSecond⟩

end FormScaffold.Calendar
