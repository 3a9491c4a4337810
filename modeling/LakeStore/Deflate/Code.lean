import LakeStore.Deflate.Bits

/-!
Prefix codes: symbols under sequences of bits of which none begins another.

A code is given by the lengths of its sequences alone. Sequences of one length are consecutive numbers in
the order of their symbols, and longer ones follow shorter ones.
-/

namespace LakeStore.Deflate

/-- A code as a tree: a bit leads from a node to its one or its other side. -/
inductive Code where
  /-- No sequence leads here. -/
  | empty
  | symbol (n : Nat)
  | node (zero one : Code)
  deriving DecidableEq, Repr

namespace Code

/-- Puts a symbol where some bits lead. -/
def insert (n : Nat) : List Bool → Code → Code
  | [], _ => .symbol n
  | false :: bits, .node zero one => .node (insert n bits zero) one
  | true :: bits, .node zero one => .node zero (insert n bits one)
  | false :: bits, _ => .node (insert n bits .empty) .empty
  | true :: bits, _ => .node .empty (insert n bits .empty)

/-- The bits of a number, the highest first. -/
def bitsOf (n : Nat) : (count : Nat) → List Bool
  | 0 => []
  | count + 1 => n.testBit count :: bitsOf n count

/-- The greatest length of a sequence. -/
def greatestLength : Nat := 15

/-- How many sequences of some length can be added to sequences of given lengths, from the shortest length
to the longest; nothing if there are too many already. -/
def room (lengths : List Nat) : Option Nat :=
  (List.range greatestLength).foldlM (fun free length =>
    let taken := lengths.count (length + 1)
    if 2 * free < taken then none else some (2 * free - taken)) 1

/-- Adds the symbols whose sequences have some length; `next` is the first number among them. -/
def addLength (lengths : List Nat) (length : Nat) (c : Code × Nat) : Code × Nat :=
  lengths.zipIdx.foldl (fun c l =>
    if l.1 = length then (c.1.insert l.2 (bitsOf c.2 length), c.2 + 1) else c) (c.1, 2 * c.2)

/-- The code of some lengths; a length of zero is no sequence. -/
def ofLengths (lengths : List Nat) : Code :=
  ((List.range greatestLength).foldl (fun c length => addLength lengths (length + 1) c)
    (.node .empty .empty, 0)).1

/-- Whether lengths make up a code: no bits lead nowhere, unless there is no more than one sequence and it
has one bit. The lengths of codes for lengths have to make up a full code, if any. -/
def areLengths (isFull : Bool) (lengths : List Nat) : Bool :=
  match room lengths with
  | none => false
  | some free => free = 0 || lengths.all (· = 0) || (!isFull && lengths.all (· ≤ 1))

/-- Reads the bits of a symbol; nothing if they lead nowhere. -/
def read : Code → Inflate (Option Nat)
  | .empty => pure none
  | .symbol n => pure (some n)
  | .node zero one => do if ← Inflate.bit then read one else read zero

end Code

end LakeStore.Deflate
