import LakeStore.Text.Bytes

/-!
Check sums of byte strings: two sums modulo a prime, and the remainder of a division of polynomials.
-/

namespace LakeStore.Deflate

/-- The greatest prime below two to the sixteenth. -/
def adlerPrime : Nat := 65521

/-- The sum of the bytes and one, and above it the sum of all such sums of beginnings, modulo the prime. -/
def adler (bytes : Bytes) : Nat :=
  let (a, b) := bytes.foldl (fun s byte =>
    let a := (s.1 + byte.toNat) % adlerPrime
    (a, (s.2 + a) % adlerPrime)) (1, 0)
  b * 65536 + a

/-- The polynomial to divide by, its lowest power in the highest bit. -/
def crcPolynomial : UInt32 := 0xEDB88320

/-- One step of the division. -/
def crcStep (c : UInt32) : UInt32 := if c &&& 1 = 1 then (c >>> 1) ^^^ crcPolynomial else c >>> 1

/-- The remainder with one more byte. -/
def crcByte (c : UInt32) (byte : UInt8) : UInt32 :=
  crcStep (crcStep (crcStep (crcStep (crcStep (crcStep (crcStep (crcStep (c ^^^ byte.toUInt32))))))))

/-- The remainder of a byte string, inverted before and after. -/
def crc (bytes : Bytes) : Nat := ((bytes.foldl crcByte 0xFFFFFFFF) ^^^ 0xFFFFFFFF).toNat

end LakeStore.Deflate
