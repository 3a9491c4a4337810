import LakeStore.Text.Blank
import LakeStore.Text.Digit

/-!
Numerals in a base of at most sixteen, as people write them: with a sign, with the mark of the base in front,
and with single underscores between digits. The digits may be those of any script.
-/

namespace LakeStore.Text.Numeral

/-- The value of a letter that goes on where the digits end. -/
def letterValue? (c : Char) : Option Nat :=
  if 'a' ≤ c ∧ c ≤ 'f' then some (c.toNat - 87)
  else if 'A' ≤ c ∧ c ≤ 'F' then some (c.toNat - 55)
  else none

/-- The value of a digit of any script in some base. -/
def digit? (base : Nat) (c : Char) : Option Nat := (digitValue? c <|> letterValue? c).filter (· < base)

/-- The value of a run of digits that follows others, with single underscores between digits. -/
def more (base n : Nat) : List Char → Option Nat
  | [] => some n
  | '_' :: c :: rest => do more base (n * base + (← digit? base c)) rest
  | c :: rest => do more base (n * base + (← digit? base c)) rest

/-- The value of a run of at least one digit. -/
def run (base : Nat) : List Char → Option Nat
  | [] => none
  | c :: rest => do more base (← digit? base c) rest

/-- The letter that marks a base behind a zero. -/
def mark? (base : Nat) : Option Char := [(2, 'b'), (8, 'o'), (16, 'x')].lookup base

/-- The value of a run of digits with or without the mark of the base. -/
def magnitude (base : Nat) : List Char → Option Nat
  | z :: m :: rest =>
    if digitValue? z = some 0 ∧ mark? base = some m.toLower then
      match rest with
      | '_' :: digits => run base digits
      | digits => run base digits
    else run base (z :: m :: rest)
  | cs => run base cs

/-- A magnitude with or without a sign before it. -/
def signed (magnitude : List Char → Option Nat) (cs : List Char) : Option Int :=
  let (negative, cs) := takeSign cs
  (magnitude cs).map fun n => if negative then -(n : Int) else n

/-- The greatest number of digits in a base that is no power of two. -/
def greatestWidth : Nat := 4300

/-- Whether a numeral has more digits than are read. -/
def isTooLong (base : Nat) (cs : List Char) : Bool :=
  (mark? base).isNone && greatestWidth < (cs.filter fun c => (digitValue? c).isSome).length

/-- The integer that a numeral spells in a base, outer white space aside. -/
def integer? (base : Nat) (s : String) : Option Int :=
  let cs := (trimWhite s).toList
  if isTooLong base cs then none else signed (magnitude base) cs

/-- A text with the digits of every script written as ASCII digits. -/
def withAsciiDigits (s : String) : String :=
  String.ofList (s.toList.map fun c => ((digitValue? c).map fun n => Char.ofNat (48 + n)).getD c)

end LakeStore.Text.Numeral
