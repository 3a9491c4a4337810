import LakeStore.Text.Base64
import LakeStore.Text.Case
import LakeStore.Text.Numeral
import LakeStore.Value
import LakeStore.Yaml.Cursor
import LakeStore.Yaml.Tag

/-!
What scalars stand for.

A scalar without quotes is null, a truth value, a number or a time if it looks like one, and a text
otherwise. The looks are those of version 1.1: `yes` is a truth value, `010` is eight, `1:30` is ninety, and
`1e3` is a text since it has no point. A scalar whose tag says what it is need not look like it, so numbers
are read more leniently than they are recognized.
-/

namespace LakeStore.Yaml.Scalar

/-! ### Words -/

/-- The spellings of a word: all small, with a capital at the start, and all capitals. -/
def spellings (word : String) : List String := [word, word.capitalize, Text.upperAscii word]

/-- The words for truth values. -/
def truthWords : List (String × Bool) :=
  [("yes", true), ("no", false), ("true", true), ("false", false), ("on", true), ("off", false)]

/-- Whether a text is a word for a truth value. -/
def isTruth (s : String) : Bool := truthWords.any fun w => (spellings w.1).contains s

/-- Whether a text stands for nothing. -/
def isNull (s : String) : Bool := s = "" || s = "~" || (spellings "null").contains s

/-! ### Looks of numbers -/

/-- Whether a character may follow the first digit of a decimal numeral. -/
def isDigitOrGap (c : Char) : Bool := c.isDigit || c = '_'

/-- Whether digits of a base, with gaps, make up a text that is not empty. -/
def isRun (base : Nat) (cs : List Char) : Bool :=
  cs != [] && cs.all fun c => c = '_' || ((Hex.value? c).filter (· < base)).isSome

/-- Whether a text starts with a digit and goes on with digits and gaps. -/
def isDecimal : List Char → Bool
  | c :: rest => c.isDigit && rest.all isDigitOrGap
  | [] => false

/-- Whether a text is a number below sixty. -/
def isSixtieth : List Char → Bool
  | [d] => d.isDigit
  | [t, d] => '0' ≤ t && t ≤ '5' && d.isDigit
  | _ => false

/-- Whether a text is a decimal numeral, or several of them in base sixty. -/
def isSexagesimal (cs : List Char) : Bool :=
  match Text.pieces [':'] cs with
  | lead :: rest => isDecimal lead && rest.all isSixtieth
  | [] => false

/-- Whether a text looks like an integer. -/
def isInteger (s : String) : Bool :=
  match (Text.takeSign s.toList).2 with
  | '0' :: 'b' :: rest => isRun 2 rest
  | '0' :: 'x' :: rest => isRun 16 rest
  | ['0'] => true
  | '0' :: rest => isRun 8 rest
  | cs => isSexagesimal cs

/-- Whether a text is an exponent, which has a sign, or empty. -/
def isExponent : List Char → Bool
  | [] => true
  | mark :: sign :: digits =>
    (mark = 'e' || mark = 'E') && (sign = '+' || sign = '-') && digits != [] && digits.all Char.isDigit
  | _ => false

/-- Whether a text looks like a number with a point. One without digits before the point has no sign. -/
def isReal (s : String) : Bool :=
  let cs := s.toList
  match Text.takeSign cs with
  | (_, '.' :: rest) =>
    let word := String.ofList rest
    (spellings "inf").contains word
      || (cs = '.' :: rest && (word = "nan" || word = "NaN" || word = "NAN"
        || (isDecimal (rest.takeWhile isDigitOrGap) && isExponent (rest.dropWhile isDigitOrGap))))
  | (_, cs) =>
    match Text.cutAt '.' cs with
    | (whole, some rest) =>
      (isDecimal whole && isExponent (rest.dropWhile isDigitOrGap))
        || (isSexagesimal whole && rest.all isDigitOrGap)
    | (_, none) => false

/-! ### Values of numbers -/

/-- The magnitude that a numeral without gaps and sign spells. -/
def whole (s : String) : Except Fault Int :=
  if s = "" then .error .empty
  else
    let found :=
      match Text.after? "0b" s, Text.after? "0x" s, Text.after? "0" s with
      | some digits, _, _ => Text.Numeral.integer? 2 digits
      | _, some digits, _ => Text.Numeral.integer? 16 digits
      | _, _, some _ => Text.Numeral.integer? 8 s
      | _, _, _ =>
        ((Text.pieces [':'] s.toList).mapM fun part => Text.Numeral.integer? 10 (String.ofList part)).map
          (List.foldl (fun n d => n * 60 + d) 0)
    found.elim (.error .scalar) .ok

/-- A numeral without its gaps, cut behind its sign. -/
def withoutGaps (s : String) : Except Fault (Bool × String) :=
  match s.toList.filter (· != '_') with
  | [] => .error .empty
  | cs =>
    let (negative, cs) := Text.takeSign cs
    .ok (negative, String.ofList cs)

/-- The integer that a numeral spells. -/
def integer (s : String) : Except Fault Int := do
  let (negative, s) ← withoutGaps s
  (whole s).map fun n => if negative then -n else n

/-- The number that parts in base sixty stand for, the last of which is the least. -/
def ofSixtieths (parts : List Binary64) : Except Fault Binary64 :=
  let units := (List.range parts.length).map fun i => Binary64.ofInt (Nat.repeat (· * 60) i 1 : Nat)
  if units.all Binary64.isFinite then
    .ok ((parts.reverse.zip units).foldl (fun sum (x, unit) => sum.add (x.mul unit)) .zero)
  else .error .size

/-- The number that a part of a numeral spells. -/
def realPart? (cs : List Char) : Option Binary64 :=
  Binary64.read? (Text.Numeral.withAsciiDigits (Text.trimWhite (String.ofList cs)))

/-- The number that a numeral spells. -/
def real (s : String) : Except Fault Binary64 := do
  let (negative, s) ← withoutGaps (Text.lower s)
  let x ←
    if s = ".inf" then .ok (.infinite false)
    else if s = ".nan" then .ok .nan
    else
      match (Text.pieces [':'] s.toList).mapM realPart? with
      | none => .error .scalar
      | some [x] => .ok x
      | some parts => ofSixtieths parts
  return if negative then x.negate else x

/-! ### Times -/

/-- A time as it is written, whether or not there is one like it. -/
structure WrittenTime where
  year : Nat
  month : Nat
  day : Nat
  /-- Hour, minute, second and millionths of a second. -/
  clock : Option (Nat × Nat × Nat × Nat) := none
  offset : Option Int := none

/-- One digit or two. -/
def oneOrTwo (cs : List Char) : Option (Nat × List Char) := Moment.digits 2 cs <|> Moment.digits 1 cs

/-- What stands behind the mark of the time of day. -/
def behindDay : List Char → Option (List Char)
  | 'T' :: cs | 't' :: cs => some cs
  | c :: cs => if c = ' ' ∨ c = '\t' then some (cs.dropWhile fun c => c = ' ' || c = '\t') else none
  | [] => none

/-- Millionths of a second behind a point, if there is one; further digits do not count. -/
def fraction : List Char → Nat × List Char
  | '.' :: cs =>
    let (n, count, rest) := Decimal.readDigits cs
    (Moment.millionths n count, rest)
  | cs => (0, cs)

/-- The seconds of an offset, if there is one. -/
def offset? (cs : List Char) : Option (Option Int) :=
  match cs.dropWhile fun c => c = ' ' || c = '\t' with
  | [] => if cs = [] then some none else none
  | ['Z'] => some (some 0)
  | sign :: rest => do
    let negative ← [('-', true), ('+', false)].lookup sign
    let (hours, rest) ← oneOrTwo rest
    let (minutes, rest) ←
      match rest with
      | ':' :: rest => Moment.digits 2 rest
      | rest => some (0, rest)
    let n : Int := (hours * 60 + minutes) * 60
    if rest = [] then some (some (if negative then -n else n)) else none

/-- The time that a text spells. -/
def written? (s : String) : Option WrittenTime := do
  let (year, cs) ← Moment.digits 4 s.toList
  let (month, cs) ← oneOrTwo (← Moment.mark '-' cs)
  let (day, cs) ← oneOrTwo (← Moment.mark '-' cs)
  if cs = [] then some { year, month, day }
  else
    let (hour, cs) ← oneOrTwo (← behindDay cs)
    let (minute, cs) ← Moment.digits 2 (← Moment.mark ':' cs)
    let (second, cs) ← Moment.digits 2 (← Moment.mark ':' cs)
    let (micros, cs) := fraction cs
    some { year, month, day, clock := some (hour, minute, second, micros), offset := ← offset? cs }

/-- Whether a text looks like a time. A day alone has two digits for the month and for the day. -/
def isTime (s : String) : Bool := (written? s).any fun w => w.clock.isSome || s.length == 10

/-- The day or moment that is written, if there is one. An offset is shorter than a day. -/
def time? (w : WrittenTime) : Option Value := do
  let date ← Date.make? w.year w.month w.day
  match w.clock with
  | none => some (.date date)
  | some (hour, minute, second, micros) =>
    if 23 < hour ∨ 59 < minute ∨ 59 < second ∨ 86400 ≤ (w.offset.getD 0).natAbs then none
    let seconds := date.dayNumber * 86400 + (hour * 3600 + minute * 60 + second : Nat)
    some (.moment ⟨⟨seconds * 1000000 + micros⟩, w.offset⟩)

/-! ### Scalars -/

/-- A text without one line feed at its end. What a scalar looks like is told on its first line. -/
def line (s : String) : String :=
  match s.toList.reverse with
  | '\n' :: c :: rest => String.ofList (c :: rest).reverse
  | _ => s

/-- What a plain scalar is by its looks. -/
def looks (s : String) : Tag :=
  let s := line s
  if isNull s then .null
  else if isTruth s then .truth
  else if isInteger s then .integer
  else if isReal s then .real
  else if isTime s then .time
  else if s = "<<" then .merge
  else if s = "=" then .principal
  else .text

/-- The value of a scalar that is something. Collections and marks are no scalars. -/
def value (s : String) : Tag → Except Fault Value
  | .null => .ok .null
  | .truth => (truthWords.lookup (Text.lower s)).elim (.error .word) fun b => .ok (.bool b)
  | .integer => (integer s).map .int
  | .real => (real s).map .real
  | .time =>
    match written? (line s) with
    | none => .error .form
    | some w => (time? w).elim (.error .scalar) .ok
  | .text => .ok (.text s)
  | .binary =>
    if s.toList.all fun c => c.toNat < 0x80 then (Base64.decode s.toList).elim (.error .type) fun b =>
      .ok (.bytes b)
    else .error .type
  | _ => .error .type

end LakeStore.Yaml.Scalar
