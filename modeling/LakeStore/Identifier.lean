import LakeStore.Text.Bytes

/-!
Identifiers of 128 bits in their grouped hexadecimal form.

File sessions are named by the first sixteen octets of a token. Leases and requests draw theirs from a
sequence that never repeats, so that no two of them are equal.
-/

namespace LakeStore.Identifier

/-- Thirty-two digits in groups of 8, 4, 4, 4 and 12 with hyphens between them. -/
def grouped (digits : List Char) : String :=
  String.ofList (digits.take 8 ++ '-' :: (digits.drop 8).take 4 ++ '-' :: (digits.drop 12).take 4
    ++ '-' :: (digits.drop 16).take 4 ++ '-' :: digits.drop 20)

/-- The first sixteen octets of a token, with zero octets after a shorter one. A character may be cut. -/
def sessionOctets (token : String) : Bytes :=
  let octets := (Utf8.encode token).take 16
  octets ++ List.replicate (16 - octets.length) 0

/-- The file session that a token belongs to. -/
def session (token : String) : String := grouped (Hex.encode (sessionOctets token))

/-- The identifier with a serial number: the number fills the last group, and the others are fixed. -/
def numbered (serial : Nat) : String :=
  "00000000-0000-4000-8000-" ++ String.ofList ((Nat.toDigits 16 serial).leftpad 12 '0')

end LakeStore.Identifier
