import FormScaffold.Calendar.Civil
import FormScaffold.Text.Blank

/-!
# Timestamps

The internet date and time format.  Writing uses as few of none, three, six or nine
decimals of the second as are exact.  Reading also takes a blank for the `T`, shorter
numbers, blanks between the parts, and any offset from universal time.
-/

namespace FormScaffold.Calendar

open FormScaffold.Text

/-- A natural number with at least `width` digits. -/
def padded (width n : Nat) : List Char :=
  let ds := Nat.toDigits 10 n
  List.replicate (width - ds.length) '0' ++ ds

/-- A year: four digits, with a sign outside the years 0 to 9999. -/
def yearText (y : Int) : List Char :=
  if 0 ≤ y && y ≤ 9999 then padded 4 y.toNat
  else (if y < 0 then '-' else '+') :: padded 4 y.natAbs

/-- The decimals of a second, with their point. -/
def fractionText (nanos : Nat) : List Char :=
  if nanos == 0 then []
  else if nanos % 1000000 == 0 then '.' :: padded 3 (nanos / 1000000)
  else if nanos % 1000 == 0 then '.' :: padded 6 (nanos / 1000)
  else '.' :: padded 9 nanos

/-- The date of a moment. -/
def dateText (d : Date) : List Char :=
  yearText d.year ++ '-' :: (padded 2 d.month ++ '-' :: padded 2 d.day)

/-- The time of day of a moment, without decimals. -/
def clockText (m : Moment) : List Char :=
  padded 2 m.hour ++ ':' :: (padded 2 m.minute ++ ':' :: padded 2 m.second)

/-- Date and time of an instant, without an offset. -/
def Instant.stamp (t : Instant) : List Char :=
  let m := t.moment
  dateText m.date ++ 'T' :: (clockText m ++ fractionText m.nanos)

/-- The timestamp with a numeric offset. -/
def Instant.offsetText (t : Instant) : String :=
  String.ofList (t.stamp ++ ['+', '0', '0', ':', '0', '0'])

/-- The timestamp with the letter for universal time. -/
def Instant.zuluText (t : Instant) : String := String.ofList (t.stamp ++ ['Z'])

/-- Digits of a compact timestamp, as in names of files. -/
def Instant.compactText (t : Instant) : String :=
  let m := t.moment
  String.ofList (yearText m.date.year ++ padded 2 m.date.month ++ padded 2 m.date.day
    ++ padded 2 m.hour ++ padded 2 m.minute ++ padded 2 m.second)

/-- Date and time with a blank between them. -/
def Instant.plainText (t : Instant) : String :=
  let m := t.moment
  String.ofList (dateText m.date ++ ' ' :: clockText m)

/-- Between `least` and `most` digits at the start of a text. -/
def takeNumber? (least most : Nat) (cs : List Char) : Option (Nat × List Char) :=
  let ds := (cs.take most).takeWhile Char.isDigit
  if ds.length < least then none
  else some (ds.foldl (fun n c => n * 10 + (c.toNat - 48)) 0, cs.drop ds.length)

/-- A number of at most `most` digits after blanks. -/
def takeField? (most : Nat) (cs : List Char) : Option (Nat × List Char) :=
  takeNumber? 1 most (trimStart cs)

/-- A year, signed if it has more than four digits. -/
def takeYear? (cs : List Char) : Option (Int × List Char) :=
  match trimStart cs with
  | '-' :: rest => (takeNumber? 1 rest.length rest).map fun (n, r) => (-(n : Int), r)
  | '+' :: rest => (takeNumber? 1 rest.length rest).map fun (n, r) => ((n : Int), r)
  | rest => (takeNumber? 1 4 rest).map fun (n, r) => ((n : Int), r)

/-- A separator after blanks. -/
def takeMark? (mark : Char) (cs : List Char) : Option (List Char) :=
  match trimStart cs with
  | c :: rest => if c == mark then some rest else none
  | [] => none

/-- The decimals of a second in nanoseconds, if there are any. -/
def takeFraction? (cs : List Char) : Option (Nat × List Char) :=
  match cs with
  | '.' :: rest =>
      match takeNumber? 1 9 rest with
      | none => none
      | some (n, after) =>
          some (n * Nat.pow 10 (9 - (rest.length - after.length)), after.dropWhile Char.isDigit)
  | _ => some (0, cs)

/-- An offset in seconds: a letter or word for universal time, or signed hours and
minutes. -/
def takeOffset? (cs : List Char) : Option (Int × List Char) :=
  match cs with
  | 'Z' :: rest => some (0, rest)
  | 'z' :: rest => some (0, rest)
  | u :: t :: c :: rest =>
      if [u, t, c].map Char.toUpper == ['U', 'T', 'C'] then some (0, rest)
      else
        let sign : Option Int :=
          if u == '+' then some 1 else if u == '-' || u == '−' then some (-1) else none
        match sign, takeNumber? 2 2 (t :: c :: rest) with
        | some s, some (h, rest) =>
            match takeNumber? 2 2 (rest.dropWhile fun x => x == ':' || isBlank x) with
            | some (m, rest) =>
                if h < 24 && m < 60 then some (s * ((h * 3600 + m * 60 : Nat) : Int), rest) else none
            | none => none
        | _, _ => none
  | _ => none

/-- The mark between date and time. -/
def takeSeparator? : List Char → Option (List Char)
  | c :: rest => if c == 'T' || c == 't' || c == ' ' then some rest else none
  | [] => none

/-- The first and the last year that an instant may lie in. -/
def yearRange : Int × Int := (-262143, 262142)

/-- Instants may lie in the year. -/
def hasInstants (y : Int) : Bool := decide (yearRange.1 ≤ y) && decide (y ≤ yearRange.2)

/-- A date, with signs between its parts. -/
def takeDate? (cs : List Char) : Option (Date × List Char) := do
  let (year, r) ← takeYear? cs
  let r ← takeMark? '-' r
  let (month, r) ← takeField? 2 r
  let r ← takeMark? '-' r
  let (day, r) ← takeField? 2 r
  some (⟨year, month, day⟩, r)

/-- A time of day. -/
structure Clock where
  hour : Nat
  minute : Nat
  second : Nat
  nanos : Nat

/-- A time of day, with colons between its parts. -/
def takeClock? (cs : List Char) : Option (Clock × List Char) := do
  let (hour, r) ← takeField? 2 cs
  let r ← takeMark? ':' r
  let (minute, r) ← takeField? 2 r
  let r ← takeMark? ':' r
  let (second, r) ← takeField? 2 r
  let (nanos, r) ← takeFraction? r
  some (⟨hour, minute, second, nanos⟩, r)

/-- The instant of a date and time of day at an offset, if they are in range. -/
def Instant.ofParts? (date : Date) (clock : Clock) (offset : Int) : Option Instant :=
  if !date.isValid || !hasInstants date.year then none
  else if 24 ≤ clock.hour || 60 ≤ clock.minute || 61 ≤ clock.second then none
  else
    let leap := clock.second == 60
    let seconds := date.toDay * secondsPerDay + ((clock.hour * 3600 + clock.minute * 60 : Nat) : Int)
      + (if leap then 59 else (clock.second : Int)) - offset
    let t : Instant := ⟨seconds, if leap then clock.nanos + nanosPerSecond else clock.nanos⟩
    if hasInstants t.moment.date.year then some t else none

/-- Read a timestamp and its offset from universal time. -/
def Instant.withOffset? (s : String) : Option (Instant × Int) := do
  let (date, r) ← takeDate? s.toList
  let r ← takeSeparator? r
  let (clock, r) ← takeClock? r
  let (offset, r) ← takeOffset? (trimStart r)
  if !(trimStart r).isEmpty then none
  else
    let t ← Instant.ofParts? date clock offset
    some (t, offset)

/-- Read a timestamp. -/
def Instant.ofText? (s : String) : Option Instant := (Instant.withOffset? s).map Prod.fst

/-- Read a date and time of day that have no offset. -/
def Instant.ofLocalText? (s : String) : Option Instant := do
  let (date, r) ← takeDate? s.toList
  let r ← takeMark? 'T' r
  let (clock, r) ← takeClock? r
  if r.isEmpty then Instant.ofParts? date clock 0 else none

/-- Read a date alone, as the instant at which it starts. -/
def Instant.ofDateText? (s : String) : Option Instant := do
  let (date, r) ← takeDate? s.toList
  if r.isEmpty then Instant.ofParts? date ⟨0, 0, 0, 0⟩ 0 else none

end FormScaffold.Calendar
