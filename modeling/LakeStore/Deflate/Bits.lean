import LakeStore.Deflate.Flaw
import LakeStore.Text.Bytes

/-!
Reading compressed data bit by bit, from the lowest bit of a byte to its highest, while bytes are written.

Data may end anywhere: what is written until then is kept, and reading can be tried again when more of it
has come.
-/

namespace LakeStore.Deflate

/-- Why reading stops early. -/
inductive Stop where
  /-- The data ends here; there may be more of it later. -/
  | hungry
  | flaw (f : Flaw)
  deriving DecidableEq, Repr

/-- What is left to read, and what is written. -/
structure Progress where
  bytes : Bytes
  /-- How many bits of the first byte have been read. -/
  used : Nat := 0
  written : Array UInt8 := #[]

/-- Reading that may stop early. What is written until then stays. -/
abbrev Inflate := ExceptT Stop (StateM Progress)

namespace Inflate

/-- Stops because of a flaw. -/
def fail {α : Type} (f : Flaw) : Inflate α := throw (.flaw f)

/-- Demands something of the data. -/
def demand (condition : Bool) (f : Flaw) : Inflate Unit := if condition then pure () else fail f

/-- The next bit. -/
def bit : Inflate Bool := do
  let p ← get
  match p.bytes with
  | [] => throw .hungry
  | byte :: rest =>
    set (if p.used = 7 then { p with bytes := rest, used := 0 } else { p with used := p.used + 1 })
    return byte.toNat.testBit p.used

/-- The number that some bits make up, the lowest first. -/
def number : (bits : Nat) → Inflate Nat
  | 0 => pure 0
  | bits + 1 => do
    let low ← bit
    let rest ← number bits
    return 2 * rest + low.toNat

/-- Passes over what is left of a byte of which bits have been read. -/
def align : Inflate Unit :=
  modify fun p => if p.used = 0 then p else { p with bytes := p.bytes.drop 1, used := 0 }

/-- The next byte, when no bit of it has been read. -/
def byte : Inflate UInt8 := do
  let p ← get
  match p.bytes with
  | [] => throw .hungry
  | b :: rest =>
    set { p with bytes := rest }
    return b

/-- The next bytes. -/
def take : (count : Nat) → Inflate Bytes
  | 0 => pure []
  | count + 1 => do
    let b ← byte
    return b :: (← take count)

/-- Writes a byte. -/
def write (b : UInt8) : Inflate Unit := modify fun p => { p with written := p.written.push b }

/-- Writes what was written at some distance before the end, byte by byte, so that a copy may overlap
itself. -/
def copy (distance : Nat) : (count : Nat) → Inflate Unit
  | 0 => pure ()
  | count + 1 => do
    let p ← get
    if p.written.size < distance then fail .tooFarBack
    write (p.written[p.written.size - distance]?.getD 0)
    copy distance count

/-- How many bits there can be left: a bound for repetitions that read something each time. -/
def bound : Inflate Nat := return 8 * (← get).bytes.length + 1

end Inflate

end LakeStore.Deflate
