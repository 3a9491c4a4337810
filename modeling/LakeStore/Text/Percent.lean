import LakeStore.Text.Bytes
import LakeStore.Text.Trim

/-!
Percent encoding of texts: characters outside of a set are written as the hexadecimal octets of their
UTF-8 form, each after a percent sign.

The form encoding of name-value pairs is built on it, with `+` for a space, `=` inside a pair and `&`
between pairs. Both have their inverse beside them.
-/

namespace LakeStore.Text

namespace Percent

/-- The uppercase digit of a value below sixteen. -/
def digit (n : Nat) : Char := (Hex.digit n).toUpper

/-- An octet as three characters. -/
def octet (b : UInt8) : List Char := ['%', digit (b.toNat / 16), digit (b.toNat % 16)]

/-- One character, as itself if it is kept. -/
def encodeChar (keep : Char → Bool) (c : Char) : List Char :=
  if keep c then [c] else (String.utf8EncodeChar c).flatMap octet

/-- A text in which only the characters of `keep` stand for themselves. -/
def encode (keep : Char → Bool) (s : String) : String :=
  String.ofList (s.toList.flatMap (encodeChar keep))

/-- The octets that a text stands for: a percent sign with two digits is one octet, any other character
its own UTF-8 form. -/
def decode : List Char → Bytes
  | '%' :: h :: l :: rest =>
    match Hex.value? h, Hex.value? l with
    | some a, some b => UInt8.ofNat (a * 16 + b) :: decode rest
    | _, _ => 0x25 :: decode (h :: l :: rest)
  | c :: rest => String.utf8EncodeChar c ++ decode rest
  | [] => []
termination_by cs => cs.length

/-- Letters, digits and the four marks that never need encoding. -/
def isUnreserved (c : Char) : Bool := c.isAlphanum || c = '-' || c = '.' || c = '_' || c = '~'

/-- The characters of a path that stand for themselves. -/
def keepsInPath (c : Char) : Bool := isUnreserved c || c = '/'

end Percent

namespace Form

/-- A name or a value. -/
def encodeText (s : String) : String :=
  String.ofList (s.toList.flatMap fun c => if c = ' ' then ['+']
    else Percent.encodeChar Percent.isUnreserved c)

/-- A name and a value with `=` between them. -/
def encodePair (p : String × String) : String := encodeText p.1 ++ "=" ++ encodeText p.2

/-- Pairs in order. -/
def encode (pairs : List (String × String)) : String := join "&" (pairs.map encodePair)

/-- The octets of a name or value. -/
def decodeText (cs : List Char) : Bytes := Percent.decode (cs.map fun c => if c = '+' then ' ' else c)

/-- The octets of a name and a value; a missing value is empty. -/
def decodePair (cs : List Char) : Bytes × Bytes :=
  let parts := cutAt '=' cs
  (decodeText parts.1, decodeText (parts.2.getD []))

/-- The pairs that a text encodes; the empty text encodes none. -/
def decode (s : String) : List (Bytes × Bytes) :=
  if s = "" then [] else (pieces ['&'] s.toList).map decodePair

end Form

end LakeStore.Text
