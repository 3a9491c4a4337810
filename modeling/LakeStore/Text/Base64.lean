import LakeStore.Text.Bytes

/-!
Octets in base 64: three octets are four digits of six bits each.

Writing pads the last group to four characters. Reading passes over whatever is no digit; it ends where a
group is padded to four, and a group that is broken off otherwise is a fault.
-/

namespace LakeStore.Base64

/-- The digit of a value below 64. -/
def digit (n : Nat) : Char :=
  if n < 26 then Char.ofNat (65 + n)
  else if n < 52 then Char.ofNat (71 + n)
  else if n < 62 then Char.ofNat (n - 4)
  else if n = 62 then '+'
  else '/'

/-- The value of a digit. -/
def value? (c : Char) : Option Nat :=
  if 'A' ≤ c ∧ c ≤ 'Z' then some (c.toNat - 65)
  else if 'a' ≤ c ∧ c ≤ 'z' then some (c.toNat - 71)
  else if '0' ≤ c ∧ c ≤ '9' then some (c.toNat + 4)
  else if c = '+' then some 62
  else if c = '/' then some 63
  else none

/-- Four characters for three octets. -/
def encode : Bytes → List Char
  | a :: b :: c :: rest =>
    let n := (a.toNat * 256 + b.toNat) * 256 + c.toNat
    digit (n / 262144) :: digit (n / 4096 % 64) :: digit (n / 64 % 64) :: digit (n % 64) :: encode rest
  | [a, b] =>
    let n := (a.toNat * 256 + b.toNat) * 4
    [digit (n / 4096), digit (n / 64 % 64), digit (n % 64), '=']
  | [a] =>
    let n := a.toNat * 16
    [digit (n / 64), digit (n % 64), '=', '=']
  | [] => []

/-- A group that is being read: how many digits it has, how much padding stands behind them, and the bits
that no octet has taken. -/
structure Group where
  digits : Nat := 0
  padding : Nat := 0
  bits : Nat := 0

/-- The octets that characters spell behind the start of a group. -/
def decodeFrom (g : Group) : List Char → Option Bytes
  | [] => if g.digits = 0 then some [] else none
  | c :: rest =>
    if c = '=' then
      if 2 ≤ g.digits ∧ 4 ≤ g.digits + g.padding + 1 then some []
      else decodeFrom { g with padding := if 2 ≤ g.digits then g.padding + 1 else g.padding } rest
    else
      match value? c with
      | none => decodeFrom g rest
      | some n =>
        let bits := g.bits * 64 + n
        match g.digits with
        | 0 => decodeFrom ⟨1, 0, bits⟩ rest
        | 1 => (decodeFrom ⟨2, 0, bits % 16⟩ rest).map (UInt8.ofNat (bits / 16) :: ·)
        | 2 => (decodeFrom ⟨3, 0, bits % 4⟩ rest).map (UInt8.ofNat (bits / 4) :: ·)
        | _ => (decodeFrom {} rest).map (UInt8.ofNat bits :: ·)

/-- The octets that characters spell. -/
def decode (cs : List Char) : Option Bytes := decodeFrom {} cs

end LakeStore.Base64
