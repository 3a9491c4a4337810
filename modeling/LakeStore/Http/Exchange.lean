import LakeStore.Dialogue
import LakeStore.Http.Coding
import LakeStore.Http.Url
import LakeStore.Remote.Exchange

/-!
One exchange of the web: a request in full, and a response whose body may still be on the wire.
-/

namespace LakeStore.Http

/-- A request as it goes out. -/
structure Request where
  method : String
  url : Url
  headers : Headers
  content : Blob.Content
  deriving DecidableEq, Repr

/-- The body of a response. -/
inductive Body where
  /-- The whole body has been received. -/
  | received (bytes : Bytes)
  /-- The chunks to come, and the failure after the last one if the body breaks off. -/
  | onWire (chunks : List Bytes) (ending : Option Fault)

namespace Body

/-- Every byte of a body. -/
def read : Body → Except Fault Bytes
  | .received bytes => .ok bytes
  | .onWire chunks none => .ok chunks.flatten
  | .onWire _ (some fault) => .error fault

/-- Whether no byte of a body has been received. -/
def isUnread : Body → Bool
  | .received _ => false
  | .onWire .. => true

end Body

/-- A response. -/
structure Response where
  status : Int
  headers : Headers := []
  body : Body

/-- A response whose body is read from its codings: at once if it has been received, and chunk by chunk if it
is on the wire. -/
def Response.decoded (r : Response) : Except Fault Response :=
  let codings := Coding.ofHeaders r.headers
  match r.body with
  | .received bytes =>
    match Coding.decode codings [bytes] with
    | (chunks, none) => .ok { r with body := .received chunks.flatten }
    | (_, some flaw) => .error (.garbled flaw)
  | .onWire chunks ending =>
    let (chunks, flaw) := Coding.decode codings chunks
    .ok { r with body := .onWire chunks (flaw.elim ending fun flaw => some (.garbled flaw)) }

/-- What a client asks of its surroundings. -/
inductive Question where
  /-- The value that authorizes the next request. -/
  | authorize
  /-- The response to a request. -/
  | send (r : Request)
  /-- To release the connection of the last response. -/
  | release

/-- Conversations with the web. -/
def protocol : Protocol where
  Question := Question
  Answer
    | .authorize => Except Fault String
    | .send _ => Except Fault Response
    | .release => Unit

/-- A computation that exchanges messages and may fail. -/
abbrev Call (α : Type) := ExceptT Fault (Dialogue protocol) α

namespace Call

/-- The value that authorizes a request. -/
def authorize : Call String := Dialogue.question (P := protocol) .authorize

/-- The response to a request. -/
def send (r : Request) : Call Response := Dialogue.question (P := protocol) (.send r)

/-- Releases the connection of the last response. -/
def release : Call Unit := ExceptT.lift (Dialogue.question (P := protocol) .release)

/-- Reads a body to its end and releases the connection, whether the body is whole or not. -/
def drain (body : Body) : Call Bytes := do
  release
  liftM body.read

end Call

end LakeStore.Http
