import LakeStore.Number.Binary64
import LakeStore.Text.Trim

/-!
Instants of Coordinated Universal Time, to the microsecond, in the years 1 to 9999.

The remote counts milliseconds since the start of 1970. They are taken to seconds in binary64 and the
fraction is rounded to microseconds from there, so far from 1970 an instant may be some microseconds off
its count.
-/

namespace LakeStore

/-- A day of the calendar. -/
structure Date where
  year : Int
  month : Nat
  day : Nat
  deriving DecidableEq, Repr

namespace Date

/-- The day that lies `n` days after 1970-01-01. Years are counted from March, so that a leap day ends
one; 400 years make an era of 146097 days. -/
def ofDayNumber (n : Int) : Date :=
  let z := n + 719468
  let era := z.fdiv 146097
  let dayOfEra := (z.fmod 146097).toNat
  let yearOfEra := (dayOfEra - dayOfEra / 1460 + dayOfEra / 36524 - dayOfEra / 146096) / 365
  let dayOfYear := dayOfEra - (365 * yearOfEra + yearOfEra / 4 - yearOfEra / 100)
  let m := (5 * dayOfYear + 2) / 153
  let month := if m < 10 then m + 3 else m - 9
  ⟨yearOfEra + era * 400 + (if month ≤ 2 then 1 else 0), month, dayOfYear - (153 * m + 2) / 5 + 1⟩

/-- The number of days from 1970-01-01 to a day. -/
def dayNumber (d : Date) : Int :=
  let y := if d.month ≤ 2 then d.year - 1 else d.year
  let era := y.fdiv 400
  let yearOfEra := (y.fmod 400).toNat
  let m := if 2 < d.month then d.month - 3 else d.month + 9
  let dayOfYear := (153 * m + 2) / 5 + d.day - 1
  let dayOfEra := yearOfEra * 365 + yearOfEra / 4 - yearOfEra / 100 + dayOfYear
  era * 146097 + dayOfEra - 719468

/-- Whether a year has a leap day. -/
def isLeapYear (year : Int) : Bool := year % 4 == 0 && (year % 100 != 0 || year % 400 == 0)

/-- The number of days of a month. -/
def daysIn (year : Int) (month : Nat) : Nat :=
  if month = 2 then (if isLeapYear year then 29 else 28)
  else if month = 4 ∨ month = 6 ∨ month = 9 ∨ month = 11 then 30
  else 31

/-- The day with these numbers, if the calendar has it and its year is one of 1 to 9999. -/
def make? (year : Int) (month day : Nat) : Option Date :=
  if 1 ≤ year ∧ year ≤ 9999 ∧ 1 ≤ month ∧ month ≤ 12 ∧ 1 ≤ day ∧ day ≤ daysIn year month then
    some ⟨year, month, day⟩
  else none

/-- A number in at least `width` decimal digits. -/
def padded (width n : Nat) : String :=
  let digits := Nat.toDigits 10 n
  String.ofList (List.replicate (width - digits.length) '0' ++ digits)

/-- Year, month and day with hyphens between them. -/
def iso (d : Date) : String :=
  padded 4 d.year.natAbs ++ "-" ++ padded 2 d.month ++ "-" ++ padded 2 d.day

end Date

/-- Why a count is no instant. -/
inductive TimeFault where
  /-- The count has no binary64 number of seconds. -/
  | notANumber
  /-- The seconds do not fit a signed word of 64 bits. -/
  | seconds
  /-- The year does not fit a signed word of 32 bits. -/
  | calendar
  /-- The year is none of 1 to 9999. -/
  | year (year : Int)
  deriving DecidableEq, Repr

/-- An instant, as microseconds since the start of 1970. -/
structure Instant where
  micros : Int
  deriving DecidableEq, Repr

namespace Instant

/-- The year that lies some seconds after the start of 1970. A word of 64 bits holds the seconds, and one of
32 bits the years since 1900. -/
def yearOf (seconds : Int) : Except TimeFault Int :=
  let year := (Date.ofDayNumber (seconds.fdiv 86400)).year
  if seconds < -(twoTo 63 : Int) ∨ (twoTo 63 : Int) ≤ seconds then .error .seconds
  else if year - 1900 < -(twoTo 31 : Int) ∨ (twoTo 31 : Int) ≤ year - 1900 then .error .calendar
  else .ok year

/-- The instant some whole seconds and microseconds after the start of 1970. A year that is out of range is
told as a word of 32 bits. -/
def ofParts (seconds micros : Int) : Except TimeFault Instant := do
  let year ← yearOf seconds
  if year < 1 ∨ 9999 < year then throw (.year (year.bmod (twoTo 32)))
  return ⟨seconds * 1000000 + micros⟩

/-- The instant that lies some seconds after the start of 1970. The fraction of the seconds is rounded
to microseconds; negative fractions are counted from the second before. -/
def ofSeconds (t : Binary64) : Except TimeFault Instant :=
  match t.toRat? with
  | none => .error .notANumber
  | some q =>
    let whole : Int := if q < 0 then -((-q).floor) else q.floor
    let micros := Binary64.mul (Binary64.ofRat (q - whole)) (Binary64.ofInt 1000000)
    let micros := Binary64.roundRat (micros.toRat?.getD 0)
    if 1000000 ≤ micros then ofParts (whole + 1) (micros - 1000000)
    else if micros < 0 then ofParts (whole - 1) (micros + 1000000)
    else ofParts whole micros

/-- The instant that lies some milliseconds after the start of 1970. -/
def ofMillis (millis : Int) : Except TimeFault Instant :=
  let count := Binary64.ofInt millis
  if count.isFinite then ofSeconds (count.div (Binary64.ofInt 1000)) else .error .notANumber

/-- The day of an instant. -/
def date (t : Instant) : Date := Date.ofDayNumber (t.micros.fdiv 86400000000)

/-- The microseconds since the start of the day. -/
def microsOfDay (t : Instant) : Nat := (t.micros.fmod 86400000000).toNat

/-- Hours, minutes and seconds with colons between them. -/
def clock (secondsOfDay : Nat) : String :=
  Date.padded 2 (secondsOfDay / 3600) ++ ":" ++ Date.padded 2 (secondsOfDay / 60 % 60) ++ ":"
    ++ Date.padded 2 (secondsOfDay % 60)

/-- The clock of a day to the microsecond; a whole second has no fraction. -/
def preciseClock (micros : Nat) : String :=
  clock (micros / 1000000)
    ++ (if micros % 1000000 = 0 then "" else "." ++ Date.padded 6 (micros % 1000000))

/-- Day and time of day without an offset. -/
def isoLocal (t : Instant) : String := t.date.iso ++ "T" ++ preciseClock t.microsOfDay

/-- Day, time of day and the zero offset. -/
def iso (t : Instant) : String := t.isoLocal ++ "+00:00"

/-- Day and time of day to the second, and the zero offset without a colon. -/
def isoSeconds (t : Instant) : String :=
  t.date.iso ++ "T" ++ clock (t.microsOfDay / 1000000) ++ "+0000"

end Instant

namespace TimeFault

/-- What is wrong with the count. -/
def message : TimeFault → String
  | .notANumber => "int too large to convert to float"
  | .seconds => "timestamp out of range for platform time_t"
  | .calendar => "[Errno 75] Value too large for defined data type"
  | .year y => "year " ++ toString y ++ " is out of range"

end TimeFault

end LakeStore
