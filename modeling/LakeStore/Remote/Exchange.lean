import LakeStore.Blob.Stream
import LakeStore.Dialogue

/-!
One exchange with the remote file system: a request, and a response or the reason why there is none.
-/

namespace LakeStore

namespace Blob

/-- Content to be written: all at once, or chunk by chunk when its length is not known beforehand. -/
inductive Content where
  | whole (bytes : Bytes)
  | chunked (parts : List Bytes)
  deriving DecidableEq, Repr

/-- The bytes of some content. -/
def Content.bytes : Content → Bytes
  | .whole b => b
  | .chunked parts => parts.flatten

end Blob

namespace Remote

/-- A call of the remote file system. -/
structure Request where
  operation : Operation
  path : String
  params : List (String × String) := []
  content : Option Blob.Content := none
  /-- Whether the body of a successful answer is to be streamed. -/
  stream : Bool := false
  deriving DecidableEq, Repr

/-- The answer to a call. A streamed body comes as a stream, any other as bytes. -/
structure Response where
  operation : Operation
  status : Int
  body : Bytes := []
  headers : List (String × String) := []
  url : String := ""
  requestId : Option String := none
  responseId : Option String := none
  stream : Option Blob.Stream := none

namespace Response

/-- Whether a call succeeded. -/
def isSuccess (r : Response) : Bool := 200 ≤ r.status && r.status < 300

/-- What ties log records to this exchange. -/
def correlation (r : Response) : Correlation := ⟨r.operation, r.url, r.requestId, r.status, r.responseId⟩

end Response

/-- Conversations with the remote: each request is answered by a response or a fault. -/
abbrev protocol : Protocol where
  Question := Request
  Answer := fun _ => Except Fault Response

end Remote

/-- A computation that calls the remote and may fail. -/
abbrev Call (α : Type) := ExceptT Fault (Dialogue Remote.protocol) α

end LakeStore
