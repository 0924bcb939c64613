import FormScaffold.Calendar.Timestamp

/-!
# Patterns of dates and times

A pattern is text in which a percent sign and a letter stand for a part of a date or
time.  A sign between them changes how a number is filled up.  A pattern with an unknown
letter, or with a percent sign at its end, is not valid.
-/

namespace FormScaffold.Calendar

/-- How a number is filled up to its width. -/
inductive Filling where
  | nothing
  | zeros
  | blanks
  deriving DecidableEq

/-- A number that a pattern can show. -/
inductive NumberField where
  | year
  | century
  | yearOfCentury
  | isoYear
  | isoCentury
  | isoYearOfCentury
  | quarter
  | month
  | day
  | weekFromSunday
  | weekFromMonday
  | isoWeek
  | weekdayFromSunday
  | weekdayFromMonday
  | ordinal
  | hour
  | hourOfHalf
  | minute
  | second
  | nanosecond
  | timestamp
  deriving DecidableEq

/-- A name or sign that a pattern can show. -/
inductive NameField where
  | shortMonth
  | longMonth
  | shortWeekday
  | longWeekday
  | lowerHalf
  | upperHalf
  | fraction
  | fractionOf (digits : Nat)
  | bareFractionOf (digits : Nat)
  | zone
  | offset
  | offsetWithColon
  | offsetWithSeconds
  | offsetHours
  | internetTime
  deriving DecidableEq

/-- A part of a pattern. -/
inductive PatternPart where
  | text (cs : List Char)
  | number (field : NumberField) (filling : Filling)
  | name (field : NameField)

/-- A date and time of day, with its distance from universal time in seconds. -/
structure ZonedMoment where
  moment : Moment
  offset : Int
  zoneName : String
  seconds : Int

/-- An instant as it is read in universal time. -/
def ZonedMoment.universal (t : Instant) : ZonedMoment := ⟨t.moment, 0, "UTC", t.seconds⟩

/-- Names of the months. -/
def monthNames : List String :=
  ["January", "February", "March", "April", "May", "June", "July", "August", "September",
    "October", "November", "December"]

/-- Names of the days of the week, from Sunday. -/
def weekdayNames : List String :=
  ["Sunday", "Monday", "Tuesday", "Wednesday", "Thursday", "Friday", "Saturday"]

/-- Days since the last Monday. -/
def Date.daysFromMonday (d : Date) : Nat := (d.weekday + 6) % 7

/-- The Thursday of the week of a date, which decides the year of that week. -/
def Date.thursday (d : Date) : Date := Date.ofDay (d.toDay + 3 - d.daysFromMonday)

/-- The week of the year of its Thursday. -/
def Date.isoWeek (d : Date) : Nat := (d.thursday.ordinal - 1) / 7 + 1

/-- Hour of a half day, from one to twelve. -/
def Moment.hourOfHalf (m : Moment) : Nat := if m.hour % 12 == 0 then 12 else m.hour % 12

/-- A number with blanks or zeros before it. -/
def filled (f : Filling) (width : Nat) (n : Int) : List Char :=
  let ds := Nat.toDigits 10 n.natAbs
  let sign := if n < 0 then ['-'] else []
  let gap := width - (ds.length + sign.length)
  match f with
  | .nothing => sign ++ ds
  | .zeros => sign ++ List.replicate gap '0' ++ ds
  | .blanks => List.replicate gap ' ' ++ sign ++ ds

/-- A year; beyond four digits it has a sign. -/
def filledYear (f : Filling) (y : Int) : List Char :=
  if 0 ≤ y && y ≤ 9999 then filled f 4 y
  else if y < 0 then filled f 5 y
  else
    let ds := Nat.toDigits 10 y.natAbs
    match f with
    | .blanks => List.replicate (5 - (ds.length + 1)) ' ' ++ '+' :: ds
    | _ => '+' :: ds

/-- The text of a number field. -/
def NumberField.text (z : ZonedMoment) (f : Filling) : NumberField → List Char
  | .year => filledYear f z.moment.date.year
  | .century => filled f 2 (z.moment.date.year / 100)
  | .yearOfCentury => filled f 2 (z.moment.date.year % 100)
  | .isoYear => filledYear f z.moment.date.thursday.year
  | .isoCentury => filled f 2 (z.moment.date.thursday.year / 100)
  | .isoYearOfCentury => filled f 2 (z.moment.date.thursday.year % 100)
  | .quarter => filled f 1 ((z.moment.date.month - 1) / 3 + 1 : Nat)
  | .month => filled f 2 z.moment.date.month
  | .day => filled f 2 z.moment.date.day
  | .weekFromSunday => filled f 2 ((z.moment.date.ordinal + 6 - z.moment.date.weekday) / 7 : Nat)
  | .weekFromMonday =>
      filled f 2 ((z.moment.date.ordinal + 6 - z.moment.date.daysFromMonday) / 7 : Nat)
  | .isoWeek => filled f 2 z.moment.date.isoWeek
  | .weekdayFromSunday => filled f 1 z.moment.date.weekday
  | .weekdayFromMonday => filled f 1 (z.moment.date.daysFromMonday + 1 : Nat)
  | .ordinal => filled f 3 z.moment.date.ordinal
  | .hour => filled f 2 z.moment.hour
  | .hourOfHalf => filled f 2 z.moment.hourOfHalf
  | .minute => filled f 2 z.moment.minute
  | .second => filled f 2 z.moment.second
  | .nanosecond => filled f 9 z.moment.nanos
  | .timestamp => filled f 9 z.seconds

/-- The sign and the parts of an offset. -/
def offsetParts (offset : Int) : Char × Nat × Nat × Nat :=
  let n := offset.natAbs
  (if offset < 0 then '-' else '+', n / 3600, n / 60 % 60, n % 60)

/-- The text of a name field. -/
def NameField.text (z : ZonedMoment) : NameField → List Char
  | .shortMonth => ((monthNames[z.moment.date.month - 1]?).getD "").toList.take 3
  | .longMonth => ((monthNames[z.moment.date.month - 1]?).getD "").toList
  | .shortWeekday => ((weekdayNames[z.moment.date.weekday]?).getD "").toList.take 3
  | .longWeekday => ((weekdayNames[z.moment.date.weekday]?).getD "").toList
  | .lowerHalf => if z.moment.hour < 12 then ['a', 'm'] else ['p', 'm']
  | .upperHalf => if z.moment.hour < 12 then ['A', 'M'] else ['P', 'M']
  | .fraction => fractionText z.moment.nanos
  | .fractionOf digits => '.' :: (padded 9 z.moment.nanos).take digits
  | .bareFractionOf digits => (padded 9 z.moment.nanos).take digits
  | .zone => z.zoneName.toList
  | .offset =>
      let (sign, h, m, _) := offsetParts z.offset
      sign :: padded 2 h ++ padded 2 m
  | .offsetWithColon =>
      let (sign, h, m, _) := offsetParts z.offset
      sign :: padded 2 h ++ ':' :: padded 2 m
  | .offsetWithSeconds =>
      let (sign, h, m, s) := offsetParts z.offset
      sign :: padded 2 h ++ ':' :: padded 2 m ++ ':' :: padded 2 s
  | .offsetHours =>
      let (sign, h, _, _) := offsetParts z.offset
      sign :: padded 2 h
  | .internetTime =>
      let (sign, h, m, _) := offsetParts z.offset
      dateText z.moment.date ++ 'T' :: clockText z.moment ++ fractionText z.moment.nanos
        ++ sign :: padded 2 h ++ ':' :: padded 2 m

/-- The text of a part of a pattern. -/
def PatternPart.show (z : ZonedMoment) : PatternPart → List Char
  | .text cs => cs
  | .number field filling => field.text z filling
  | .name field => field.text z

/-- A number with zeros before it. -/
def zeroed (f : NumberField) : PatternPart := .number f .zeros

/-- A number with blanks before it. -/
def blanked (f : NumberField) : PatternPart := .number f .blanks

/-- A single character of text. -/
def mark (c : Char) : PatternPart := .text [c]

/-- What a letter stands for when it is a single number. -/
def numberLetter? : Char → Option PatternPart
  | 'Y' => some (zeroed .year)
  | 'C' => some (zeroed .century)
  | 'y' => some (zeroed .yearOfCentury)
  | 'G' => some (zeroed .isoYear)
  | 'g' => some (zeroed .isoYearOfCentury)
  | 'q' => some (zeroed .quarter)
  | 'm' => some (zeroed .month)
  | 'd' => some (zeroed .day)
  | 'e' => some (blanked .day)
  | 'U' => some (zeroed .weekFromSunday)
  | 'W' => some (zeroed .weekFromMonday)
  | 'V' => some (zeroed .isoWeek)
  | 'w' => some (.number .weekdayFromSunday .nothing)
  | 'u' => some (.number .weekdayFromMonday .nothing)
  | 'j' => some (zeroed .ordinal)
  | 'H' => some (zeroed .hour)
  | 'k' => some (blanked .hour)
  | 'I' => some (zeroed .hourOfHalf)
  | 'l' => some (blanked .hourOfHalf)
  | 'M' => some (zeroed .minute)
  | 'S' => some (zeroed .second)
  | 'f' => some (zeroed .nanosecond)
  | 's' => some (.number .timestamp .nothing)
  | _ => none

/-- What a letter stands for when it is not a single number. -/
def otherLetter? : Char → Option (List PatternPart)
  | 'b' | 'h' => some [.name .shortMonth]
  | 'B' => some [.name .longMonth]
  | 'a' => some [.name .shortWeekday]
  | 'A' => some [.name .longWeekday]
  | 'P' => some [.name .lowerHalf]
  | 'p' => some [.name .upperHalf]
  | 'Z' => some [.name .zone]
  | 'z' => some [.name .offset]
  | '+' => some [.name .internetTime]
  | 'D' | 'x' => some [zeroed .month, mark '/', zeroed .day, mark '/', zeroed .yearOfCentury]
  | 'F' => some [zeroed .year, mark '-', zeroed .month, mark '-', zeroed .day]
  | 'v' => some [blanked .day, mark '-', .name .shortMonth, mark '-', zeroed .year]
  | 'R' => some [zeroed .hour, mark ':', zeroed .minute]
  | 'T' | 'X' => some [zeroed .hour, mark ':', zeroed .minute, mark ':', zeroed .second]
  | 'r' =>
      some [zeroed .hourOfHalf, mark ':', zeroed .minute, mark ':', zeroed .second, mark ' ',
        .name .upperHalf]
  | 'c' =>
      some [.name .shortWeekday, mark ' ', .name .shortMonth, mark ' ', blanked .day, mark ' ',
        zeroed .hour, mark ':', zeroed .minute, mark ':', zeroed .second, mark ' ', zeroed .year]
  | 't' => some [mark '\t']
  | 'n' => some [mark '\n']
  | '%' => some [mark '%']
  | _ => none

/-- What stands after a percent sign, and the rest of the pattern. -/
def afterPercent? : List Char → Option (List PatternPart × List Char)
  | '-' :: c :: rest => (numberLetter? c).bind fun p => refilled .nothing p rest
  | '_' :: c :: rest => (numberLetter? c).bind fun p => refilled .blanks p rest
  | '0' :: c :: rest => (numberLetter? c).bind fun p => refilled .zeros p rest
  | '.' :: 'f' :: rest => some ([.name .fraction], rest)
  | '.' :: '3' :: 'f' :: rest => some ([.name (.fractionOf 3)], rest)
  | '.' :: '6' :: 'f' :: rest => some ([.name (.fractionOf 6)], rest)
  | '.' :: '9' :: 'f' :: rest => some ([.name (.fractionOf 9)], rest)
  | '3' :: 'f' :: rest => some ([.name (.bareFractionOf 3)], rest)
  | '6' :: 'f' :: rest => some ([.name (.bareFractionOf 6)], rest)
  | '9' :: 'f' :: rest => some ([.name (.bareFractionOf 9)], rest)
  | ':' :: 'z' :: rest => some ([.name .offsetWithColon], rest)
  | ':' :: ':' :: 'z' :: rest => some ([.name .offsetWithSeconds], rest)
  | ':' :: ':' :: ':' :: 'z' :: rest => some ([.name .offsetHours], rest)
  | c :: rest =>
      match numberLetter? c with
      | some p => some ([p], rest)
      | none => (otherLetter? c).map fun ps => (ps, rest)
  | [] => none
where
  /-- A number with another filling. -/
  refilled (f : Filling) (p : PatternPart) (rest : List Char) :
      Option (List PatternPart × List Char) :=
    match p with
    | .number field _ => some ([.number field f], rest)
    | _ => none

/-- The parts of a pattern, with a bound on their number. -/
def patternFrom : Nat → List Char → Option (List PatternPart)
  | _, [] => some []
  | 0, _ :: _ => none
  | n + 1, '%' :: cs => do
      let (parts, rest) ← afterPercent? cs
      let more ← patternFrom n rest
      some (parts ++ more)
  | n + 1, c :: cs => (patternFrom n cs).map (mark c :: ·)

/-- The parts of a valid pattern. -/
def pattern? (s : String) : Option (List PatternPart) := patternFrom s.length s.toList

/-- A date and time in the form of a pattern. -/
def ZonedMoment.format (z : ZonedMoment) (parts : List PatternPart) : String :=
  String.ofList (parts.flatMap (·.show z))

end FormScaffold.Calendar
