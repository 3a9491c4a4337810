/-!
Octet strings and the two encodings the store needs of them: UTF-8, both ways, and hexadecimal.

Octets are kept as plain lists, so that everything said about a body or a token is a statement about
lists. `Utf8.decode` accepts exactly well-formed UTF-8: no overlong forms, no surrogates, nothing
above the last code point.
-/

namespace LakeStore

/-- A string of octets. -/
abbrev Bytes := List UInt8

namespace Utf8

/-- The UTF-8 octets of a text. -/
def encode (s : String) : Bytes := s.toList.flatMap String.utf8EncodeChar

/-- The six payload bits of a continuation octet. -/
def continuation (b : UInt8) : Option Nat :=
  if 0x80 ≤ b.toNat ∧ b.toNat < 0xC0 then some (b.toNat - 0x80) else none

/-- The character of a code point that needs at least `least`, if it is a scalar value. -/
def scalar (least n : Nat) : Option Char :=
  if least ≤ n ∧ n.isValidChar then some (Char.ofNat n) else none

/-- The text that some octets spell, unless they are not well-formed. -/
def decode : Bytes → Option (List Char)
  | [] => some []
  | a :: rest =>
    if a.toNat < 0x80 then (decode rest).map (Char.ofNat a.toNat :: ·)
    else if a.toNat < 0xC0 then none
    else if a.toNat < 0xE0 then
      match rest with
      | b :: rest => do
        let c ← scalar 0x80 ((a.toNat - 0xC0) * 64 + (← continuation b))
        (decode rest).map (c :: ·)
      | [] => none
    else if a.toNat < 0xF0 then
      match rest with
      | b :: b' :: rest => do
        let c ← scalar 0x800 (((a.toNat - 0xE0) * 64 + (← continuation b)) * 64 + (← continuation b'))
        (decode rest).map (c :: ·)
      | _ => none
    else
      match rest with
      | b :: b' :: b'' :: rest => do
        let c ← scalar 0x10000
          ((((a.toNat - 0xF0) * 64 + (← continuation b)) * 64 + (← continuation b')) * 64
            + (← continuation b''))
        (decode rest).map (c :: ·)
      | _ => none

/-- The character that stands for octets that spell none. -/
def replacement : Char := '\uFFFD'

/-- The continuation octets that may follow a first octet: how many, and the bounds of the nearest. -/
def followers (lead : Nat) : Option (Nat × Nat × Nat) :=
  if lead < 0xC2 then none
  else if lead < 0xE0 then some (1, 0x80, 0xBF)
  else if lead < 0xF0 then
    some (2, if lead = 0xE0 then 0xA0 else 0x80, if lead = 0xED then 0x9F else 0xBF)
  else if lead < 0xF5 then
    some (3, if lead = 0xF0 then 0x90 else 0x80, if lead = 0xF4 then 0x8F else 0xBF)
  else none

/-- What octets spell after the start of a character: `value` is what the character amounts to so far, and
`count` the octets that it still needs, of which the nearest lies within bounds. A start that does not go on
stands for one unknown character. -/
def decodeAfter (value count low high : Nat) : Bytes → List Char
  | [] => if count = 0 then [] else [replacement]
  | b :: rest =>
    let n := b.toNat
    if count ≠ 0 ∧ low ≤ n ∧ n ≤ high then
      let value := value * 64 + (n - 0x80)
      if count = 1 then Char.ofNat value :: decodeAfter 0 0 0 0 rest
      else decodeAfter value (count - 1) 0x80 0xBF rest
    else
      (if count = 0 then [] else [replacement])
        ++ if n < 0x80 then Char.ofNat n :: decodeAfter 0 0 0 0 rest
          else
            match followers n with
            | none => replacement :: decodeAfter 0 0 0 0 rest
            | some (count, low, high) =>
              decodeAfter (n - (if n < 0xE0 then 0xC0 else if n < 0xF0 then 0xE0 else 0xF0)) count
                low high rest

/-- The text that octets spell, in which those that spell nothing are replaced. -/
def decodeLeniently (bytes : Bytes) : List Char := decodeAfter 0 0 0 0 bytes

end Utf8

namespace Hex

/-- The lowercase digit of a value below sixteen. -/
def digit (n : Nat) : Char := if n < 10 then Char.ofNat (48 + n) else Char.ofNat (87 + n)

/-- The value of a digit of either case. -/
def value? (c : Char) : Option Nat :=
  if '0' ≤ c ∧ c ≤ '9' then some (c.toNat - 48)
  else if 'a' ≤ c ∧ c ≤ 'f' then some (c.toNat - 87)
  else if 'A' ≤ c ∧ c ≤ 'F' then some (c.toNat - 55)
  else none

/-- Two digits per octet, the high one first. -/
def encode (bytes : Bytes) : List Char :=
  bytes.flatMap fun b => [digit (b.toNat / 16), digit (b.toNat % 16)]

/-- The octets that pairs of digits spell. -/
def decode : List Char → Option Bytes
  | [] => some []
  | h :: l :: rest => do
    let b := UInt8.ofNat ((← value? h) * 16 + (← value? l))
    (decode rest).map (b :: ·)
  | [_] => none

/-- `n` in exactly `width` lowercase digits, high digits cut off. -/
def fixed : (width n : Nat) → List Char
  | 0, _ => []
  | width + 1, n => fixed width (n / 16) ++ [digit (n % 16)]

end Hex

end LakeStore
