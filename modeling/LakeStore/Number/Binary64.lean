import LakeStore.Number.Power

/-!
Binary floating point of 64 bits, as exact arithmetic.

A finite number is a sign, a natural mantissa and a power of two, so its value is a rational and every
operation is "compute exactly, then round": to the nearest representable number, and to the even
mantissa from half way. `Binary64.ofRatio` is that rounding; nothing else here rounds.
-/

namespace LakeStore

/-- The quotient `num / den`, rounded to the nearest natural number and to the even one from half way. -/
def roundHalfEven (num den : Nat) : Nat :=
  let q := num / den
  let r := num % den
  if den < 2 * r ∨ (2 * r = den ∧ q % 2 = 1) then q + 1 else q

/-- A binary64 number. A finite one stands for `± mantissa · 2 ^ exponent`. -/
inductive Binary64 where
  | nan
  | infinite (negative : Bool)
  | finite (negative : Bool) (mantissa : Nat) (exponent : Int)
  deriving DecidableEq, Repr

namespace Binary64

/-- The least exponent, of the subnormal numbers. -/
def leastExponent : Int := -1074

/-- The exponent of the largest finite numbers. -/
def greatestExponent : Int := 971

/-- `num / den` divided by `2 ^ e`, as numerator and denominator. -/
def scaled (num den : Nat) (e : Int) : Nat × Nat :=
  if 0 ≤ e then (num, den * twoTo e.toNat) else (num * twoTo (-e).toNat, den)

/-- The exponent at which the positive ratio `num / den` has a mantissa of 53 bits, or the least
one. -/
def exponentFor (num den : Nat) : Int :=
  let e : Int := (num.log2 : Int) - den.log2 - 52
  let (n, d) := scaled num den e
  max leastExponent (if d * twoTo 52 ≤ n then e else e - 1)

/-- The number nearest to `± num / den`. -/
def ofRatio (negative : Bool) (num den : Nat) : Binary64 :=
  if num = 0 then .finite negative 0 leastExponent
  else
    let e := exponentFor num den
    let (n, d) := scaled num den e
    let m := roundHalfEven n d
    let (m, e) := if m = twoTo 53 then (twoTo 52, e + 1) else (m, e)
    if greatestExponent < e then .infinite negative else .finite negative m e

/-- The number nearest to a rational; zero is positive. -/
def ofRat (q : Rat) : Binary64 := ofRatio (q < 0) q.num.natAbs q.den

/-- The number nearest to an integer. -/
def ofInt (n : Int) : Binary64 := ofRatio (n < 0) n.natAbs 1

/-- Zero. -/
def zero : Binary64 := .finite false 0 leastExponent

/-- The value of a finite number. -/
def toRat? : Binary64 → Option Rat
  | .finite negative m e =>
    let (n, d) := scaled m 1 (-e)
    some ((if negative then -(n : Int) else (n : Int)) / (d : Rat))
  | _ => none

/-- The same number with the other sign. -/
def negate : Binary64 → Binary64
  | .nan => .nan
  | .infinite negative => .infinite (!negative)
  | .finite negative m e => .finite (!negative) m e

/-- Whether a number is finite. -/
def isFinite : Binary64 → Bool
  | .finite .. => true
  | _ => false

/-- Whether a number has a minus sign. -/
def isNegative : Binary64 → Bool
  | .nan => false
  | .infinite negative => negative
  | .finite negative _ _ => negative

/-- Whether a number is zero. -/
def isZero : Binary64 → Bool
  | .finite _ m _ => m == 0
  | _ => false

/-- The number nearest to a rational. A zero has the given sign. -/
def ofExact (negative : Bool) (q : Rat) : Binary64 :=
  if q = 0 then .finite negative 0 leastExponent else ofRat q

/-- The sum. A sum of zero is only negative if both numbers are. -/
def add (x y : Binary64) : Binary64 :=
  match x, y with
  | .nan, _ | _, .nan => .nan
  | .infinite a, .infinite b => if a = b then .infinite a else .nan
  | .infinite a, _ => .infinite a
  | _, .infinite b => .infinite b
  | x, y => ofExact (x.isNegative && y.isNegative) (x.toRat?.getD 0 + y.toRat?.getD 0)

/-- The difference. -/
def sub (x y : Binary64) : Binary64 := add x y.negate

/-- The product. -/
def mul (x y : Binary64) : Binary64 :=
  let negative := x.isNegative != y.isNegative
  match x, y with
  | .nan, _ | _, .nan => .nan
  | .infinite _, y => if y.isZero then .nan else .infinite negative
  | x, .infinite _ => if x.isZero then .nan else .infinite negative
  | x, y => ofExact negative (x.toRat?.getD 0 * y.toRat?.getD 0)

/-- The quotient. -/
def div (x y : Binary64) : Binary64 :=
  let negative := x.isNegative != y.isNegative
  match x, y with
  | .nan, _ | _, .nan | .infinite _, .infinite _ => .nan
  | .infinite _, _ => .infinite negative
  | _, .infinite _ => .finite negative 0 leastExponent
  | x, y =>
    if y.isZero then (if x.isZero then .nan else .infinite negative)
    else ofExact negative (x.toRat?.getD 0 / y.toRat?.getD 0)

/-- Whether `x` is greater than zero; no comparison holds of what is not a number. -/
def isPositive : Binary64 → Bool
  | .nan => false
  | .infinite negative => !negative
  | .finite negative m _ => !negative && m != 0

/-- The integer that a number is, if it is one. -/
def toInt? (x : Binary64) : Option Int :=
  x.toRat?.bind fun q => if q.den = 1 then some q.num else none

/-- A rational rounded to the nearest integer, and to the even one from half way. -/
def roundRat (q : Rat) : Int :=
  let n : Int := roundHalfEven q.num.natAbs q.den
  if q < 0 then -n else n

/-- A number rounded to `places` decimal places, as exact decimals are, and then to the nearest
number. -/
def roundPlaces (places : Nat) (x : Binary64) : Binary64 :=
  match x, x.toRat? with
  | .finite negative _ _, some q => ofRatio negative (roundRat (q * tenTo places)).natAbs (tenTo places)
  | _, _ => x

/-- Equal as numbers: nothing equals what is not a number, and the two zeros are equal. -/
def equals : Binary64 → Binary64 → Bool
  | .nan, _ | _, .nan => false
  | .infinite a, .infinite b => a == b
  | x, y =>
    match x.toRat?, y.toRat? with
    | some a, some b => a == b
    | _, _ => false

end Binary64

end LakeStore
