import LakeStore.Number.Binary64
import LakeStore.Text.Digit

/-!
Decimal numerals of binary64 numbers.

Reading takes a numeral exactly and rounds once. Writing gives the fewest digits that read back as the
same number, and of those the nearest to it; it is positional from `10 ^ -4` up to `10 ^ 16` and
scientific beyond.
-/

namespace LakeStore

/-- A numeral: `± digits · 10 ^ exponent`. -/
structure Decimal where
  negative : Bool
  digits : Nat
  exponent : Int
  deriving DecidableEq, Repr

namespace Decimal

/-- The number of decimal digits. -/
def width (n : Nat) : Nat := (Nat.toDigits 10 n).length

/-- The nearest number. Numerals far outside the range are not multiplied out. -/
def toBinary64 (d : Decimal) : Binary64 :=
  let top : Int := width d.digits + d.exponent
  if d.digits = 0 ∨ top < -330 then .finite d.negative 0 Binary64.leastExponent
  else if 310 < top then .infinite d.negative
  else if 0 ≤ d.exponent then .ofRatio d.negative (d.digits * tenTo d.exponent.toNat) 1
  else .ofRatio d.negative d.digits (tenTo (-d.exponent).toNat)

/-- A power of ten with an exponent of either sign. -/
def powerOfTen (e : Int) : Rat :=
  if 0 ≤ e then (tenTo e.toNat : Rat) else 1 / (tenTo (-e).toNat : Rat)

/-- `m · 2 ^ e` as a rational. -/
def binaryValue (m : Nat) (e : Int) : Rat :=
  if 0 ≤ e then ((m * twoTo e.toNat : Nat) : Rat) else (m : Rat) / (twoTo (-e).toNat : Rat)

/-- The positive reals that round to `m · 2 ^ e`, as the two ends of an interval. Below a power of two
the numbers lie twice as close. -/
def interval (m : Nat) (e : Int) : Rat × Rat :=
  let ulp := binaryValue 1 e
  let below := if m = twoTo 52 ∧ Binary64.leastExponent < e then ulp / 4 else ulp / 2
  (binaryValue m e - below, binaryValue m e + ulp / 2)

/-- The number of digits before the decimal point of a positive rational: the least `k` with
`q < 10 ^ k`. -/
def magnitude (q : Rat) : Int :=
  let guess := ((q.num.natAbs.log2 : Int) - q.den.log2) * 30103 / 100000
  ([guess - 1, guess, guess + 1, guess + 2].find? fun k => q < powerOfTen k).getD (guess + 3)

/-- Of the two multiples of `step` around `q`, those that lie in the interval, the nearer first; from
half way the even one. -/
def candidates (q step : Rat) (inside : Rat → Bool) : Option Nat :=
  let low := (q / step).floor.natAbs
  let lowFits := inside (low * step)
  let highFits := inside ((low + 1 : Nat) * step)
  let gap := q - low * step
  if lowFits && highFits then
    some (if gap * 2 < step ∨ (gap * 2 = step ∧ low % 2 = 0) then low else low + 1)
  else if lowFits then some low
  else if highFits then some (low + 1)
  else none

/-- Digits without their trailing zeros, each moved into the exponent. -/
def normalize : (fuel digits : Nat) → (exponent : Int) → Nat × Int
  | 0, n, e => (n, e)
  | fuel + 1, n, e => if n ≠ 0 ∧ n % 10 = 0 then normalize fuel (n / 10) (e + 1) else (n, e)

/-- The shortest numeral that reads back as `± m · 2 ^ e`. Seventeen digits always do. -/
def shortest (negative : Bool) (m : Nat) (e : Int) : Decimal :=
  if m = 0 then ⟨negative, 0, 0⟩
  else
    let q := binaryValue m e
    let (low, high) := interval m e
    let inside := fun x : Rat => if m % 2 = 0 then low ≤ x ∧ x ≤ high else low < x ∧ x < high
    let k := magnitude q
    let grids := (List.range 17).map fun n => k - (n + 1 : Nat)
    let hit := grids.findSome? fun place =>
      (candidates q (powerOfTen place) fun x => inside x).map fun digits => (digits, place)
    let (digits, place) := hit.getD ((q / powerOfTen (k - 17)).floor.natAbs, k - 17)
    let (digits, place) := normalize 18 digits place
    ⟨negative, digits, place⟩

/-- The text of a numeral, with at least one digit on either side of a point in positional notation,
and at least two digits of exponent in scientific notation. -/
def write (d : Decimal) : String :=
  let sign := if d.negative then "-" else ""
  let digits := Nat.toDigits 10 d.digits
  let point : Int := digits.length + d.exponent
  let body :=
    if d.digits = 0 then ['0', '.', '0']
    else if -4 < point ∧ point ≤ 16 then
      if point ≤ 0 then '0' :: '.' :: (List.replicate (-point).toNat '0' ++ digits)
      else if digits.length ≤ point.toNat then
        digits ++ List.replicate (point.toNat - digits.length) '0' ++ ['.', '0']
      else digits.take point.toNat ++ '.' :: digits.drop point.toNat
    else
      let power := point - 1
      let exponent := Nat.toDigits 10 power.natAbs
      let exponent := if exponent.length < 2 then '0' :: exponent else exponent
      digits.take 1 ++ (if digits.length = 1 then [] else '.' :: digits.drop 1)
        ++ 'e' :: (if power < 0 then '-' else '+') :: exponent
  sign ++ String.ofList body

/-- Reads as many digits as there are; every digit of the second count stands after the point. -/
def readDigits : List Char → Nat × Nat × List Char
  | [] => (0, 0, [])
  | cs => go 0 0 cs
where
  go (value count : Nat) : List Char → Nat × Nat × List Char
    | [] => (value, count, [])
    | c :: rest =>
      match Text.asciiDigit? c with
      | some d => go (value * 10 + d) (count + 1) rest
      | none => (value, count, c :: rest)

/-- An exponent part: a mark of either case, an optional sign, and at least one digit. -/
def readExponent : List Char → Option (Int × List Char)
  | [] => some (0, [])
  | c :: rest =>
    if c = 'e' ∨ c = 'E' then
      let (negative, digits) := Text.takeSign rest
      let (n, count, rest) := readDigits digits
      if count = 0 then none else some (if negative then -(n : Int) else n, rest)
    else some (0, c :: rest)

/-- An unsigned numeral with at least one digit on either side of an optional point, and what follows
it. -/
def readUnsigned (negative : Bool) (cs : List Char) : Option (Decimal × List Char) := do
  let (whole, count, rest) := readDigits cs
  let (digits, places, rest) := match rest with
    | '.' :: r =>
      let (fraction, places, r) := readDigits r
      (whole * tenTo places + fraction, places, r)
    | r => (whole, 0, r)
  if count + places = 0 then none
  else
    let (power, rest) ← readExponent rest
    some (⟨negative, digits, power - places⟩, rest)

end Decimal

namespace Binary64

/-- The number that a numeral, `inf`, `infinity` or `nan` in any case, with an optional sign, spells. -/
def read? (s : String) : Option Binary64 :=
  let (negative, cs) := Text.takeSign s.toList
  let word := String.ofList (cs.map Char.toLower)
  if word = "inf" ∨ word = "infinity" then some (.infinite negative)
  else if word = "nan" then some .nan
  else
    match Decimal.readUnsigned negative cs with
    | some (d, []) => some d.toBinary64
    | _ => none

/-- The text of a number: the shortest numeral, or the name of a value that is none. -/
def display : Binary64 → String
  | .nan => "nan"
  | .infinite negative => if negative then "-inf" else "inf"
  | .finite negative m e => (Decimal.shortest negative m e).write

end Binary64

end LakeStore
