import LakeStore.Error
import LakeStore.Text.Bytes

/-!
Byte streams over the bodies of objects.

A stream hands out the chunks of its source in order, empty ones left out, and must be closed to release
what it holds. A source may end in a failure; after that it is exhausted. A source that is still on the
wire can no longer be opened once the stream is closed.
-/

namespace LakeStore.Blob

/-- A stream and what happened to it so far. -/
structure Stream where
  /-- The chunks that the source has not handed out. -/
  pending : List Bytes
  /-- The failure that follows the last chunk, if one does. -/
  ending : Option Fault := none
  /-- Whether the source is still on the wire, and has to be opened for reading. -/
  onWire : Bool := false
  /-- Whether reading has begun. -/
  opened : Bool := false
  /-- What is to be done when the stream is closed, if anything: it succeeds or it fails. -/
  release : Option (Except Fault Unit) := none
  closed : Bool := false
  /-- How often the release was run. -/
  releases : Nat := 0

namespace Stream

/-- A stream over a body that is already here. -/
def ofBody (body : Bytes) : Stream := { pending := [body] }

/-- A stream that has nothing left. -/
def exhausted (s : Stream) : Stream := { s with pending := [], ending := none, opened := true }

/-- Whether the source can no longer be opened. -/
def isLate (s : Stream) : Bool := s.onWire && s.closed && !s.opened

/-- Hands out the next chunk, or nothing at the end. -/
def next (s : Stream) : Except Fault (Option Bytes) × Stream :=
  if s.isLate then (.error .closedBody, s.exhausted)
  else
    match s.pending.dropWhile (· = []) with
    | chunk :: rest => (.ok (some chunk), { s with pending := rest, opened := true })
    | [] =>
      match s.ending with
      | some fault => (.error fault, s.exhausted)
      | none => (.ok none, s.exhausted)

/-- Hands out all remaining chunks. -/
def chunks (s : Stream) : Except Fault (List Bytes) × Stream :=
  if s.isLate then (.error .closedBody, s.exhausted)
  else
    match s.ending with
    | some fault => (.error fault, s.exhausted)
    | none => (.ok (s.pending.filter (· ≠ [])), s.exhausted)

/-- Hands out every remaining byte. -/
def read (s : Stream) : Except Fault Bytes × Stream :=
  let (all, s) := s.chunks
  (all.map List.flatten, s)

/-- Releases what the stream holds; only the first time does anything. -/
def close (s : Stream) : Except Fault Unit × Stream :=
  if s.closed then (.ok (), s)
  else
    match s.release with
    | none => (.ok (), { s with closed := true })
    | some outcome => (outcome, { s with closed := true, releases := s.releases + 1 })

/-- What can be done with a stream. -/
inductive Action where
  /-- Take one chunk. -/
  | next
  /-- Take all chunks, one by one. -/
  | iterate
  /-- Take all bytes at once. -/
  | read
  | close
  /-- Begin a block at whose end the stream is closed. -/
  | enter
  /-- End such a block. -/
  | exit
  deriving DecidableEq, Repr

/-- What an action gives. -/
inductive Result where
  | chunk (c : Option Bytes)
  | chunks (cs : List Bytes)
  | bytes (b : Bytes)
  | nothing
  /-- The stream itself. -/
  | itself

/-- Performs an action. -/
def perform (s : Stream) : Action → Except Fault Result × Stream
  | .next => let (r, s) := s.next; (r.map .chunk, s)
  | .iterate => let (r, s) := s.chunks; (r.map .chunks, s)
  | .read => let (r, s) := s.read; (r.map .bytes, s)
  | .close | .exit => let (r, s) := s.close; (r.map fun _ => .nothing, s)
  | .enter => (.ok .itself, s)

/-- Performs actions in order, with the stream as each of them leaves it. -/
def performAll (s : Stream) : List Action → List (Except Fault Result × Stream)
  | [] => []
  | a :: rest => let step := s.perform a; step :: step.2.performAll rest

/-- The bytes that a result hands out. -/
def Result.handedOut : Result → Bytes
  | .chunk c => c.getD []
  | .chunks cs => cs.flatten
  | .bytes b => b
  | .nothing | .itself => []

end Stream

end LakeStore.Blob
