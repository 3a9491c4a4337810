import LakeStore.Number.Decimal

/-!
Numbers with a given number of digits: fixed, scientific, and the shorter of the two.

Digits are those of the exact value, rounded to the nearest numeral and to the even one from half way.
-/

namespace LakeStore.Binary64

/-- `digits` with a point before the last `places`, at least one digit before it. -/
def pointed (digits : List Char) (places : Nat) : List Char × List Char :=
  let padded := List.replicate (places + 1 - digits.length) '0' ++ digits
  (padded.take (padded.length - places), padded.drop (padded.length - places))

/-- A whole and a fraction, with the point only if there is a fraction or it is asked for. -/
def joined (keepPoint : Bool) (parts : List Char × List Char) : List Char :=
  parts.1 ++ (if parts.2 = [] ∧ !keepPoint then [] else '.' :: parts.2)

/-- A positive rational with `places` digits after the point. -/
def fixedParts (places : Nat) (q : Rat) : List Char × List Char :=
  pointed (Nat.toDigits 10 (roundRat (q * tenTo places)).natAbs) places

/-- The first `places + 1` digits of a positive rational, and its decimal exponent. -/
def leadingDigits (places : Nat) (q : Rat) : List Char × Int :=
  if q = 0 then (List.replicate (places + 1) '0', 0)
  else
    let exponent := Decimal.magnitude q - 1
    let n := (roundRat (q * Decimal.powerOfTen (places - exponent))).natAbs
    -- rounding up may add a digit
    if n = tenTo (places + 1) then (Nat.toDigits 10 (tenTo places), exponent + 1)
    else (Nat.toDigits 10 n, exponent)

/-- A decimal exponent with its sign and at least two digits. -/
def exponentPart (exponent : Int) : List Char :=
  let digits := Nat.toDigits 10 exponent.natAbs
  'e' :: (if exponent < 0 then '-' else '+') :: (if digits.length < 2 then '0' :: digits else digits)

/-- Without the zeros at the end. -/
def withoutZeros (cs : List Char) : List Char := (cs.reverse.dropWhile (· = '0')).reverse

/-- The three ways to write a number with a given number of digits. -/
inductive Style where
  /-- Digits after the point are counted. -/
  | fixed
  /-- Digits after the first one are counted. -/
  | scientific
  /-- All digits are counted, and zeros at the end are left out. -/
  | general
  deriving DecidableEq, Repr

/-- The absolute value of a number, in lowercase. -/
def writeMagnitude (style : Style) (count : Nat) (keepPoint : Bool) (x : Binary64) : List Char :=
  match x with
  | .nan => ['n', 'a', 'n']
  | .infinite _ => ['i', 'n', 'f']
  | .finite _ m e =>
    let q := Decimal.binaryValue m e
    let scientific (places : Nat) (strip : Bool) : List Char :=
      let (digits, exponent) := leadingDigits places q
      let fraction := digits.drop 1
      joined keepPoint (digits.take 1, if strip then withoutZeros fraction else fraction)
        ++ exponentPart exponent
    match style with
    | .fixed => joined keepPoint (fixedParts count q)
    | .scientific => scientific count false
    | .general =>
      let count := max 1 count
      let exponent := (leadingDigits (count - 1) q).2
      if -4 ≤ exponent ∧ exponent < count then
        let (whole, fraction) := fixedParts ((count : Int) - 1 - exponent).toNat q
        joined keepPoint (whole, if keepPoint then fraction else withoutZeros fraction)
      else scientific (count - 1) (!keepPoint)

end LakeStore.Binary64
