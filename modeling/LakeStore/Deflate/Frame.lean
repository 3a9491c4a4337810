import LakeStore.Deflate.Block
import LakeStore.Deflate.Checksum

/-!
What stands around compressed data: nothing, a short header and a check sum, or the header and the trailer
of a file.

`read` says what some beginning of framed data amounts to. Data that ends early gives what it holds until
there, and data behind the end is passed over.
-/

namespace LakeStore.Deflate

/-- What stands around compressed data. -/
inductive Frame where
  | bare
  | stream
  | file
  deriving DecidableEq, Repr

namespace Frame

/-- The number of the method of compression. -/
def deflateMethod : Nat := 8

/-- The greatest window, as the power of two that it is. -/
def greatestWindow : Nat := 15

/-- The header of a stream. -/
def streamHeader : Inflate Unit := do
  let first ← Inflate.number 8
  let second ← Inflate.number 8
  Inflate.demand ((first * 256 + second) % 31 = 0) .header
  Inflate.demand (first % 16 = deflateMethod) .method
  Inflate.demand (first / 16 + 8 ≤ greatestWindow) .windowSize
  if second.testBit 5 then
    let _ ← Inflate.number 32
    Inflate.fail .dictionary

/-- Four bytes as a number, the highest first. -/
def highestFirst (bytes : Bytes) : Nat := bytes.foldl (fun n b => n * 256 + b.toNat) 0

/-- The check sum behind a stream. -/
def streamTrailer : Inflate Unit := do
  Inflate.align
  let sum ← Inflate.take 4
  Inflate.demand (highestFirst sum = adler (← get).written.toList) .sum

/-- Bytes up to a zero byte, with it. `fuel` bounds them. -/
def throughZero : (fuel : Nat) → Inflate Bytes
  | 0 => throw .hungry
  | fuel + 1 => do
    let b ← Inflate.byte
    if b = 0 then return [b] else return b :: (← throughZero fuel)

/-- The header of a file: a mark, the method, flags, time and system, and what the flags announce. -/
def fileHeader : Inflate Unit := do
  let mark ← Inflate.take 2
  Inflate.demand (mark = [0x1F, 0x8B]) .header
  let start ← Inflate.take 2
  let (method, flags) := (start.headD 0, (start.getD 1 0).toNat)
  Inflate.demand (method.toNat = deflateMethod) .method
  Inflate.demand (flags < 32) .headerFlags
  let times ← Inflate.take 6
  let extra ←
    if flags.testBit 2 then do
      let size ← Inflate.take 2
      pure (size ++ (← Inflate.take (highestFirst size.reverse)))
    else pure []
  let name ← if flags.testBit 3 then throughZero (← Inflate.bound) else pure []
  let comment ← if flags.testBit 4 then throughZero (← Inflate.bound) else pure []
  if flags.testBit 1 then
    let sum ← Inflate.take 2
    let header := mark ++ start ++ times ++ extra ++ name ++ comment
    Inflate.demand (highestFirst sum.reverse = crc header % 65536) .headerSum

/-- The check sum and the length behind a file. -/
def fileTrailer : Inflate Unit := do
  Inflate.align
  let written := (← get).written
  let sum ← Inflate.take 4
  Inflate.demand (highestFirst sum.reverse = crc written.toList) .sum
  let length ← Inflate.take 4
  Inflate.demand (highestFirst length.reverse = written.size % 4294967296) .length

/-- Reads framed data to its end. -/
def readAll : Frame → Inflate Unit
  | .bare => do blocks (← Inflate.bound)
  | .stream => do
    streamHeader
    blocks (← Inflate.bound)
    streamTrailer
  | .file => do
    fileHeader
    blocks (← Inflate.bound)
    fileTrailer

/-- What the beginning of framed data amounts to. -/
def read (f : Frame) (bytes : Bytes) : Except Flaw Bytes :=
  let (result, p) := f.readAll.run.run { bytes }
  match result with
  | .error (.flaw flaw) => .error flaw
  | _ => .ok p.written.toList

end Frame

end LakeStore.Deflate
