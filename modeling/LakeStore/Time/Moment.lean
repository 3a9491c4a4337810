import LakeStore.Number.Decimal
import LakeStore.Time.Instant

/-!
Written moments: a day and a time of day, with or without an offset from Coordinated Universal Time.

A moment is read from its written form, or from a count of seconds or milliseconds since the start of 1970;
counts beyond twenty thousand million are milliseconds. Reading goes back to the year 0, which no calendar
has.
-/

namespace LakeStore

/-- A local day and time of day, counted as if it were an instant, and its offset in seconds. -/
structure Moment where
  clock : Instant
  offset : Option Int
  deriving DecidableEq, Repr

namespace Moment

/-- A UTC instant as a moment. -/
def ofInstant (t : Instant) : Moment := ⟨t, some 0⟩

/-- An offset with its sign, in hours and minutes, and seconds if there are any. -/
def writeOffset (offset : Int) : String :=
  let n := offset.natAbs
  (if offset < 0 then "-" else "+") ++ Date.padded 2 (n / 3600) ++ ":" ++ Date.padded 2 (n / 60 % 60)
    ++ (if n % 60 = 0 then "" else ":" ++ Date.padded 2 (n % 60))

/-- Day, time of day and offset, with a mark between day and time. -/
def written (mark : String) (m : Moment) : String :=
  m.clock.date.iso ++ mark ++ Instant.preciseClock m.clock.microsOfDay ++ (m.offset.map writeOffset).getD ""

/-- The written form. -/
def iso (m : Moment) : String := written "T" m

/-- The written form inside a text that people read. -/
def display (m : Moment) : String := written " " m

/-- Exactly `count` digits, and what follows. -/
def digits : (count : Nat) → List Char → Option (Nat × List Char)
  | count, cs => go count 0 cs
where
  go : Nat → Nat → List Char → Option (Nat × List Char)
    | 0, n, cs => some (n, cs)
    | count + 1, n, c :: cs => do go count (n * 10 + (← Text.asciiDigit? c)) cs
    | _ + 1, _, [] => none

/-- What follows one expected character. -/
def mark (c : Char) : List Char → Option (List Char)
  | d :: rest => if d = c then some rest else none
  | [] => none

/-- Year, month and day with hyphens between them. -/
def readDate (cs : List Char) : Option (Date × List Char) := do
  let (year, cs) ← digits 4 cs
  let (month, cs) ← digits 2 (← mark '-' cs)
  let (day, cs) ← digits 2 (← mark '-' cs)
  if 1 ≤ month ∧ month ≤ 12 ∧ 1 ≤ day ∧ day ≤ Date.daysIn year month then some (⟨year, month, day⟩, cs)
  else none

/-- The millionths that a number of digits behind a point stand for, cut off behind the sixth. -/
def millionths (digits count : Nat) : Nat :=
  if count ≤ 6 then digits * tenTo (6 - count) else digits / tenTo (count - 6)

/-- A fraction of a second, in microseconds. -/
def readFraction (cs : List Char) : Option (Nat × List Char) :=
  let (n, count, rest) := Decimal.readDigits cs
  if count = 0 then none else some (millionths n count, rest)

/-- Hours and minutes, then seconds and their fraction if they are there, in microseconds. -/
def readTime (cs : List Char) : Option (Nat × List Char) := do
  let (hour, cs) ← digits 2 cs
  let (minute, cs) ← digits 2 (← mark ':' cs)
  if 23 < hour ∨ 59 < minute then none
  let minutes := hour * 60 + minute
  match cs with
  | ':' :: cs => do
    let (second, cs) ← digits 2 cs
    if 59 < second then none
    match cs with
    | '.' :: cs | ',' :: cs => do
      let (micros, cs) ← readFraction cs
      some ((minutes * 60 + second) * 1000000 + micros, cs)
    | cs => some ((minutes * 60 + second) * 1000000, cs)
  | cs => some (minutes * 60000000, cs)

/-- The rest of a written moment: nothing, the letter of the zero offset, or a signed offset. -/
def readOffset : List Char → Option (Option Int)
  | [] => some none
  | ['Z'] | ['z'] => some (some 0)
  | sign :: cs => do
    let negative ← [('-', true), ('−', true), ('+', false)].lookup sign
    let (hour, cs) ← digits 2 cs
    let (minute, cs) ← digits 2 (match cs with | ':' :: r => r | r => r)
    if 23 < hour ∨ 59 < minute ∨ cs ≠ [] then none
    let n : Int := (hour * 60 + minute) * 60
    some (some (if negative then -n else n))

/-- A moment from its written form; a day alone stands for its start. -/
def readWritten (cs : List Char) : Option Moment := do
  let (date, rest) ← readDate cs
  let start := date.dayNumber * 86400000000
  match rest with
  | [] => some ⟨⟨start⟩, none⟩
  | separator :: rest =>
    if separator ∈ ['T', 't', ' ', '_'] then do
      let (micros, rest) ← readTime rest
      let offset ← readOffset rest
      some ⟨⟨start + micros⟩, offset⟩
    else none

/-- The greatest count that is taken for seconds. -/
def greatestSeconds : Nat := 20000000000

/-- A moment from a count and microseconds of its unit, in the years 0 to 9999. -/
def ofCount (isMillis : Bool) (count micros : Int) : Option Moment :=
  let total := if isMillis then count * 1000 + micros else count * 1000000 + micros
  let seconds := total.fdiv 1000000
  if -62167219200 ≤ seconds ∧ seconds ≤ 253402300799 then some ⟨⟨total⟩, some 0⟩ else none

/-- A moment from a whole count. -/
def ofInt (n : Int) : Option Moment := ofCount (greatestSeconds < n.natAbs) n 0

/-- A positive rational rounded to the nearest integer, and up from half way. -/
def roundHalfUp (q : Rat) : Int := (q + 1 / 2).floor

/-- A moment from a count with a fraction. -/
def ofReal (x : Binary64) : Option Moment := do
  let q ← x.toRat?
  let isMillis : Bool := (greatestSeconds : Rat) < q ∨ q < -(greatestSeconds : Rat)
  let fraction := x.sub (.ofInt q.floor)
  let micros := fraction.mul (.ofInt (if isMillis then 1000 else 1000000))
  ofCount isMillis q.floor (roundHalfUp (← micros.toRat?))

/-- The greatest number of a signed word of 64 bits. -/
def greatestWord : Nat := twoTo 63 - 1

/-- A number from the digits of its whole and of its fraction. Each digit of the fraction is added for
itself. -/
def withFraction (whole : Nat) (fraction : List Char) : Option Binary64 := do
  let digits ← fraction.mapM Text.asciiDigit?
  let next (acc : Binary64 × Binary64) (d : Nat) : Binary64 × Binary64 :=
    (acc.1.add ((Binary64.ofInt d).div acc.2), acc.2.mul (.ofInt 10))
  return (digits.foldl next (.ofInt whole, .ofInt 10)).1

/-- A moment from the numeral of a count, which has no exponent. -/
def readCount (s : String) : Option Moment := do
  let (negative, cs) := Text.takeSign s.toList
  let (whole, fraction) := Text.cutAt '.' cs
  let (n, count, rest) := Decimal.readDigits whole
  if rest ≠ [] ∨ greatestWord < n then none
  match fraction with
  | none => if count = 0 then none else ofInt (if negative then -(n : Int) else n)
  | some fraction =>
    let x ← withFraction n fraction
    ofReal (if negative then x.negate else x)

/-- A moment from its written form or from the numeral of a count. -/
def read? (s : String) : Option Moment := readWritten s.toList <|> readCount s

/-- Whether the calendar has the day of a moment. -/
def isDatable (m : Moment) : Bool := 1 ≤ m.clock.date.year

end Moment

end LakeStore
