import LakeStore.Deflate.Code

/-!
Blocks of compressed data: stored bytes, or literal bytes and copies of what was written before, each under
the bits of a code. The code is fixed, or it comes with the block.
-/

namespace LakeStore.Deflate

/-! ### Symbols -/

/-- The symbol that ends a block. Smaller ones are literal bytes, and greater ones lengths of copies. -/
def endOfBlock : Nat := 256

/-- The lengths of copies: the least of each symbol, and how many bits follow to add to it. -/
def copyLengths : Array (Nat × Nat) :=
  #[(3, 0), (4, 0), (5, 0), (6, 0), (7, 0), (8, 0), (9, 0), (10, 0), (11, 1), (13, 1), (15, 1),
    (17, 1), (19, 2), (23, 2), (27, 2), (31, 2), (35, 3), (43, 3), (51, 3), (59, 3), (67, 4), (83, 4),
    (99, 4), (115, 4), (131, 5), (163, 5), (195, 5), (227, 5), (258, 0)]

/-- The distances of copies: the least of each symbol, and how many bits follow to add to it. -/
def copyDistances : Array (Nat × Nat) :=
  #[(1, 0), (2, 0), (3, 0), (4, 0), (5, 1), (7, 1), (9, 2), (13, 2), (17, 3), (25, 3), (33, 4),
    (49, 4), (65, 5), (97, 5), (129, 6), (193, 6), (257, 7), (385, 7), (513, 8), (769, 8), (1025, 9),
    (1537, 9), (2049, 10), (3073, 10), (4097, 11), (6145, 11), (8193, 12), (12289, 12), (16385, 13),
    (24577, 13)]

/-- The number of a symbol: the least one and what the bits after it add. -/
def extended (table : Array (Nat × Nat)) (symbol : Nat) (otherwise : Flaw) : Inflate Nat :=
  match table[symbol]? with
  | some (least, bits) => return least + (← Inflate.number bits)
  | none => Inflate.fail otherwise

/-- The codes of a block. -/
structure Codes where
  literals : Code
  distances : Code

/-- Writes the symbols of a block. `fuel` bounds them. -/
def symbols (codes : Codes) : (fuel : Nat) → Inflate Unit
  | 0 => throw .hungry
  | fuel + 1 => do
    match ← codes.literals.read with
    | none => Inflate.fail .literal
    | some symbol =>
      if symbol = endOfBlock then return
      if symbol < endOfBlock then Inflate.write symbol.toUInt8
      else
        let count ← extended copyLengths (symbol - endOfBlock - 1) .literal
        match ← codes.distances.read with
        | none => Inflate.fail .distance
        | some symbol => Inflate.copy (← extended copyDistances symbol .distance) count
      symbols codes fuel

/-! ### Codes -/

/-- The codes that need not be given. -/
def fixedCodes : Codes where
  literals :=
    .ofLengths (List.replicate 144 8 ++ List.replicate 112 9 ++ List.replicate 24 7 ++ List.replicate 8 8)
  distances := .ofLengths (List.replicate 32 5)

/-- The order in which the lengths of codes for lengths are given. -/
def lengthOrder : List Nat := [16, 17, 18, 0, 8, 7, 9, 6, 10, 5, 11, 4, 12, 3, 13, 2, 14, 1, 15]

/-- The lengths of codes for lengths, in the order of the lengths. -/
def lengthCodeLengths (count : Nat) : Inflate (List Nat) := do
  let given ← (lengthOrder.take count).mapM fun symbol => return (symbol, ← Inflate.number 3)
  return (List.range lengthOrder.length).map fun symbol => (given.lookup symbol).getD 0

/-- Reads lengths until there are `count` of them; those that there are come last first. A symbol is a
length, repeats the one before it, or stands for several zeros. `fuel` bounds the symbols. -/
def lengths (code : Code) (count : Nat) : (fuel : Nat) → (read : List Nat) → Inflate (List Nat)
  | 0, _ => throw .hungry
  | fuel + 1, read => do
    if count ≤ read.length then return read.reverse
    let add (length times : Nat) : Inflate (List Nat) := do
      Inflate.demand (read.length + times ≤ count) .repetition
      lengths code count fuel (List.replicate times length ++ read)
    match (← code.read).getD 0 with
    | 16 =>
      let times ← Inflate.number 2
      match read with
      | [] => Inflate.fail .repetition
      | last :: _ => add last (3 + times)
    | 17 => add 0 (3 + (← Inflate.number 3))
    | 18 => add 0 (11 + (← Inflate.number 7))
    | length => lengths code count fuel (length :: read)

/-- The codes that a block begins with. -/
def givenCodes : Inflate Codes := do
  let literals := 257 + (← Inflate.number 5)
  let distances := 1 + (← Inflate.number 5)
  let given := 4 + (← Inflate.number 4)
  Inflate.demand (literals ≤ 286 && distances ≤ 30) .tooManySymbols
  let codeLengths ← lengthCodeLengths given
  Inflate.demand (Code.areLengths true codeLengths) .lengthCodes
  let all ← lengths (.ofLengths codeLengths) (literals + distances) (← Inflate.bound) []
  let (literals, distances) := (all.take literals, all.drop literals)
  Inflate.demand (literals[endOfBlock]? != some 0) .noEndOfBlock
  Inflate.demand (Code.areLengths false literals) .literalCodes
  Inflate.demand (Code.areLengths false distances) .distanceCodes
  return ⟨.ofLengths literals, .ofLengths distances⟩

/-! ### Blocks -/

/-- Writes stored bytes, as far as they go. -/
def stored : (count : Nat) → Inflate Unit
  | 0 => pure ()
  | count + 1 => do
    Inflate.write (← Inflate.byte)
    stored count

/-- Writes the bytes of one block, and says whether it is the last. -/
def block : Inflate Bool := do
  let bits ← Inflate.number 3
  match bits / 2 with
  | 0 =>
    Inflate.align
    let lengths ← Inflate.number 32
    Inflate.demand (lengths % 65536 + lengths / 65536 = 65535) .storedLength
    stored (lengths % 65536)
  | 1 => symbols fixedCodes (← Inflate.bound)
  | 2 =>
    let codes ← givenCodes
    symbols codes (← Inflate.bound)
  | _ => Inflate.fail .blockKind
  return bits % 2 = 1

/-- Writes the bytes of all blocks. `fuel` bounds them. -/
def blocks : (fuel : Nat) → Inflate Unit
  | 0 => throw .hungry
  | fuel + 1 => do if !(← block) then blocks fuel

end LakeStore.Deflate
