import LakeStore.Deflate.Frame
import LakeStore.Http.Headers
import LakeStore.Text.Blank

/-!
Content codings: how the bytes of a body were written for their way over the wire.

A body is decoded chunk by chunk as it comes in, one coding after the other, and each chunk gives whatever
can be read by then. Codings without a reader here are passed over.
-/

namespace LakeStore.Http

/-- A coding that there is a reader for. -/
inductive Coding where
  | identity
  | gzip
  | deflate
  deriving DecidableEq, Repr

namespace Coding

/-- The coding of a name. -/
def ofName? (name : String) : Option Coding :=
  [("identity", identity), ("gzip", gzip), ("deflate", deflate)].lookup name

/-- The codings of a message, in the order in which they were applied. -/
def ofHeaders (h : Headers) : List Coding :=
  ((h.values "content-encoding").flatMap fun v => Text.pieces [','] v.toList).filterMap fun name =>
    ofName? (Text.lowerAscii (Text.strip (String.ofList name)))

/-- A reader in the middle of a body. -/
structure Reader where
  coding : Coding
  /-- What came in so far. -/
  received : Bytes := []
  /-- How many bytes have been handed out. -/
  given : Nat := 0
  /-- Whether anything came in yet. -/
  isFresh : Bool := true
  /-- Whether the data turned out to have nothing around it. -/
  isBare : Bool := false
  deriving DecidableEq, Repr

namespace Reader

/-- What stands around the data. -/
def frame (r : Reader) : Deflate.Frame :=
  if r.isBare then .bare else if r.coding = .gzip then .file else .stream

/-- Reads one more chunk of compressed data. -/
def inflate (r : Reader) (chunk : Bytes) : Except Deflate.Flaw (Bytes × Reader) := do
  let received := r.received ++ chunk
  let all ← r.frame.read received
  return (all.drop r.given, { r with received, given := all.length, isFresh := false })

/-- Reads one more chunk. Deflated data whose first chunk is flawed is taken to be bare. -/
def feed (r : Reader) (chunk : Bytes) : Except Deflate.Flaw (Bytes × Reader) :=
  match r.coding with
  | .identity => .ok (chunk, r)
  | .gzip => r.inflate chunk
  | .deflate =>
    match r.inflate chunk with
    | .error flaw => if r.isFresh then { r with isBare := true }.inflate chunk else .error flaw
    | ok => ok

/-- Reads one more chunk through several readers. -/
def feedAll (chunk : Bytes) : List Reader → Except Deflate.Flaw (Bytes × List Reader)
  | [] => .ok (chunk, [])
  | r :: rest => do
    let (chunk, r) ← r.feed chunk
    let (chunk, rest) ← feedAll chunk rest
    return (chunk, r :: rest)

end Reader

/-- What chunks hold, chunk by chunk, and the flaw at which reading ends if there is one. -/
def decodeChunks (readers : List Reader) : List Bytes → List Bytes × Option Deflate.Flaw
  | [] => ([], none)
  | chunk :: rest =>
    if chunk = [] then decodeChunks readers rest
    else
      match Reader.feedAll chunk readers with
      | .error flaw => ([], some flaw)
      | .ok (decoded, readers) =>
        let (chunks, flaw) := decodeChunks readers rest
        (decoded :: chunks, flaw)

/-- The readers that undo codings: that of the last one comes first. -/
def readers (codings : List Coding) : List Reader := codings.reverse.map fun coding => { coding }

/-- What chunks of a body with some codings hold. -/
def decode (codings : List Coding) (chunks : List Bytes) : List Bytes × Option Deflate.Flaw :=
  decodeChunks (readers codings) chunks

end Coding

end LakeStore.Http
