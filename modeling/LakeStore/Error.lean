import LakeStore.Deflate.Flaw
import LakeStore.Domain.Flaw
import LakeStore.Error.Spot
import LakeStore.Http.UrlFault
import LakeStore.Lax
import LakeStore.Remote.Operation
import LakeStore.Text.Encoding

/-!
The failures of the store.

Every failure of an operation is one of a small, stable set, so that a consumer can branch on it whatever
the remote said. Final errors will fail again; temporary ones may not, and the caller owns any retry; a
structured remote failure keeps the name that the remote gave it, for the few callers that need to tell
subtypes apart.

`Fault` adds what does not come from the store: failures of the exchange, misuse of the interface, and
failures of other parties that only pass through.
-/

namespace LakeStore

/-- The high-level category of a failure, for logs. -/
inductive Category where
  | notFound
  | conflict
  | validation
  | unsupported
  | policy
  | dependency
  | internal
  deriving DecidableEq, Repr

/-- The name of a category in logs. -/
def Category.name : Category → String
  | .notFound => "not_found"
  | .conflict => "conflict"
  | .validation => "validation"
  | .unsupported => "unsupported"
  | .policy => "policy"
  | .dependency => "dependency"
  | .internal => "internal"

/-- The number by which a file system reports a failure. -/
abbrev Errno := Int

namespace Errno

/-- No such file or directory. -/
def noEntry : Errno := 2

/-- The call was interrupted. -/
def interrupted : Errno := 4

/-- Input or output failed. -/
def inputOutput : Errno := 5

/-- Try again. -/
def again : Errno := 11

/-- Permission denied. -/
def access : Errno := 13

/-- The file exists. -/
def fileExists : Errno := 17

/-- Invalid argument. -/
def invalid : Errno := 22

/-- Operation not supported. -/
def notSupported : Errno := 95

end Errno

/-- A failure that repeats when the call is repeated. -/
inductive FinalKind where
  | internal
  | notFound
  | alreadyExists
  | invalidArgument
  | notSupported
  | permissionDenied
  deriving DecidableEq, Repr

/-- A failure that may pass: an ambiguous or temporary one, or a concurrent change. -/
inductive TemporaryKind where
  | transient
  | conflict
  deriving DecidableEq, Repr

/-- What a temporary failure was made of. -/
inductive Cause where
  /-- No response was received. -/
  | noResponse
  /-- A body did not decode. -/
  | undecodable
  /-- A failure that goes by this name. -/
  | other (name : String)
  deriving DecidableEq, Repr

/-- A structured failure as the remote described it. -/
structure RemoteFailure where
  /-- The remote's own words, possibly none. -/
  described : String
  exception : String
  status : Int
  javaClass : String := ""
  requestId : Option String := none
  responseId : Option String := none
  /-- What the failure is about: a key, as a rule. -/
  key : Value := .null
  /-- The exchange that brought the failure, if it is known. -/
  origin : Option Remote.Correlation := none
  deriving DecidableEq, Repr

/-- A failure of a store operation. -/
inductive StoreError where
  | final (kind : FinalKind) (message : String) (key : Value)
  | temporary (kind : TemporaryKind) (message : String) (key : Value) (cause : Option Cause)
  | remote (failure : RemoteFailure)
  deriving DecidableEq, Repr

namespace StoreError

/-- The name under which an error is logged. -/
def name : StoreError → String
  | .final .internal .. => "BlobStoreError"
  | .final .notFound .. => "NotFoundError"
  | .final .alreadyExists .. => "AlreadyExistsError"
  | .final .invalidArgument .. => "InvalidArgumentError"
  | .final .notSupported .. => "NotSupportedError"
  | .final .permissionDenied .. => "PermissionDeniedError"
  | .temporary .transient .. => "TransientError"
  | .temporary .conflict .. => "ConflictError"
  | .remote _ => "RemoteExceptionError"

/-- The code of an error, for machines. -/
def code : StoreError → String
  | .final .internal .. => "INTERNAL_ERROR"
  | .final .notFound .. => "NOT_FOUND"
  | .final .alreadyExists .. => "ALREADY_EXISTS"
  | .final .invalidArgument .. => "INVALID_ARGUMENT"
  | .final .notSupported .. => "NOT_SUPPORTED"
  | .final .permissionDenied .. => "PERMISSION_DENIED"
  | .temporary .transient .. => "TRANSIENT"
  | .temporary .conflict .. => "CONFLICT"
  | .remote _ => "REMOTE_EXCEPTION"

/-- The category of an error. -/
def category : StoreError → Category
  | .final .internal .. => .internal
  | .final .notFound .. => .notFound
  | .final .alreadyExists .. => .conflict
  | .final .invalidArgument .. => .validation
  | .final .notSupported .. => .unsupported
  | .final .permissionDenied .. => .policy
  | .temporary .transient .. => .dependency
  | .temporary .conflict .. => .conflict
  | .remote _ => .dependency

/-- The number that belongs to the kind of an error, whatever status it came with. -/
def kindErrno : StoreError → Errno
  | .final .internal .. => .inputOutput
  | .final .notFound .. => .noEntry
  | .final .alreadyExists .. => .fileExists
  | .final .invalidArgument .. => .invalid
  | .final .notSupported .. => .notSupported
  | .final .permissionDenied .. => .access
  | .temporary .transient .. => .again
  | .temporary .conflict .. => .interrupted
  | .remote _ => .inputOutput

/-- Whether repeating the call may help. -/
def retryable : StoreError → Bool
  | .temporary .. => true
  | _ => false

/-- The key that an error is about, and null if it is about none. The store names keys only; whoever else
reports an error may name anything. -/
def key : StoreError → Value
  | .final _ _ key => key
  | .temporary _ _ key _ => key
  | .remote f => f.key

/-- What a temporary error was made of. -/
def cause : StoreError → Option Cause
  | .temporary _ _ _ cause => cause
  | _ => none

/-- The message that an error carries; a structured failure without words is described by its status
and name. -/
def message : StoreError → String
  | .final _ message _ => message
  | .temporary _ message _ _ => message
  | .remote f => if f.described = "" then toString f.status ++ " " ++ f.exception else f.described

/-- The code of an error in plain words. -/
def codeWords (e : StoreError) : String :=
  String.ofList (e.code.toList.map fun c => if c = '_' then ' ' else c.toLower)

/-- The text of an error: its message, or its code in words when it has none; a structured failure
starts with its status and name. -/
def text (e : StoreError) : String :=
  match e with
  | .remote f => toString f.status ++ " " ++ f.exception ++ ": " ++ e.message
  | e => if e.message = "" then e.codeWords else e.message

end StoreError

namespace Status

/-- The error that a status stands for. Statuses that are absent here are unexpected. -/
def error? (status : Int) (message : String) : Option StoreError :=
  if status = 400 then some (.final .invalidArgument message .null)
  else if status = 401 ∨ status = 403 then some (.final .permissionDenied message .null)
  else if status = 404 then some (.final .notFound message .null)
  else if status = 405 then some (.final .notSupported message .null)
  else if status = 409 then some (.temporary .conflict message .null none)
  else if status = 429 ∨ status = 500 then some (.temporary .transient message .null none)
  else none

/-- The error that a status stands for; an unexpected status is taken for an invalid argument. -/
def errorOrInvalid (status : Int) (message : String) : StoreError :=
  (error? status message).getD (.final .invalidArgument message .null)

end Status

/-- The number to report for an error: a structured failure goes by its status. -/
def StoreError.errno : StoreError → Errno
  | .remote f => (Status.errorOrInvalid f.status "").kindErrno
  | e => e.kindErrno

/-- No response was received: the connection failed or the deadline passed. -/
structure RequestFailure where
  message : String
  method : String
  url : String
  retryable : Bool := true
  cause : Option String := none
  deriving DecidableEq, Repr

/-- What is known of a failure of another party. -/
inductive Nature where
  /-- A file or directory is missing. -/
  | missing
  /-- Access was denied. -/
  | denied
  /-- A deadline passed or a connection failed. -/
  | unreachable
  /-- The operating system gave this number, or whoever spoke for it gave something else. -/
  | numbered (errno : Value)
  /-- A source could not be read. -/
  | unread (spot : Spot)
  /-- An exchange over the network failed. -/
  | exchange
  /-- The process was asked to stop; this is no failure of a call. -/
  | interrupt
  /-- Nothing is known. -/
  | unknown
  deriving DecidableEq, Repr

/-- A failure of another party, with the name and the text that it goes by. -/
structure Foreign where
  name : String
  text : String
  nature : Nature
  deriving DecidableEq, Repr

/-- Whatever can end a call. -/
inductive Fault where
  | store (e : StoreError)
  | request (e : RequestFailure)
  /-- A multipart handle of this type was not issued by the backend. -/
  | handle (type : String)
  /-- A modification time is no instant. -/
  | time (e : TimeFault)
  /-- The client was closed before the call. -/
  | closedClient
  /-- A body was closed before its first chunk was asked for. -/
  | closedBody
  /-- A URL could not be built. -/
  | url (why : Http.UrlFault)
  /-- A response leads to something that is no URL. -/
  | nowhere (why : Http.UrlFault)
  /-- A host looks like a domain name in an encoded form, and is none. -/
  | host (why : Domain.Flaw)
  /-- A field of a message cannot be written. -/
  | field (why : Text.Unencodable)
  /-- A body is not encoded in the way it says. -/
  | garbled (why : Deflate.Flaw)
  /-- A response came from a URL without a scheme, so that nothing is known of where it is valid. -/
  | schemeless (url : String)
  /-- A call does not fit its operation, for this reason. -/
  | misfit (why : String)
  /-- A payload has these issues. -/
  | invalid (issues : List Issue)
  /-- A listing used up the directories it was allowed. -/
  | unfinished
  | foreign (f : Foreign)
  deriving DecidableEq, Repr

namespace Fault

/-- The name under which a fault is logged. -/
def name : Fault → String
  | .store e => e.name
  | .request _ => "HttpRequestError"
  | .handle _ => "TypeError"
  | .time (.year _) => "ValueError"
  | .time .calendar => "OSError"
  | .time _ => "OverflowError"
  | .closedClient => "RuntimeError"
  | .closedBody => "StreamClosed"
  | .url _ => "InvalidURL"
  | .nowhere _ => "RemoteProtocolError"
  | .host why => why.name
  | .field _ => "UnicodeEncodeError"
  | .garbled _ => "DecodingError"
  | .schemeless _ => "ValueError"
  | .misfit _ => "TypeError"
  | .invalid _ => "ValidationError"
  | .unfinished => "RecursionError"
  | .foreign f => f.name

/-- The text of a fault. -/
def text : Fault → String
  | .store e => e.text
  | .request e => e.message
  | .handle type => "multipart handle " ++ type ++ " was not issued by the adl backend"
  | .time e => e.message
  | .closedClient => "Cannot send a request, as the client has been closed."
  | .closedBody =>
    "Attempted to read or stream content, but the stream has been closed."
  | .url why => why.message
  | .nowhere why => "Invalid URL in location header: " ++ why.message ++ "."
  | .host why => why.message
  | .field why => why.message
  | .garbled why => why.message
  | .schemeless sent => "unknown url type: " ++ Text.quoted sent
  | .misfit why => why
  | .invalid _ => "<ValidationError>"
  | .unfinished => "the listing did not end"
  | .foreign f => f.text

/-- The category under which a fault is logged: only errors of the store have one of their own. -/
def category : Fault → Category
  | .store e => e.category
  | _ => .internal

/-- The number that a file system should report for a fault; another party's own one is passed on as
it is. -/
def errno : Fault → Value
  | .store e => .int e.errno
  | .time .calendar => .int 75
  | .foreign f =>
    match f.nature with
    | .missing => .int Errno.noEntry
    | .denied => .int Errno.access
    | .unreachable => .int Errno.again
    | .numbered n => n
    | _ => .int Errno.inputOutput
  | _ => .int Errno.inputOutput

/-- Whether a fault asks the process to stop. -/
def isInterrupt : Fault → Bool
  | .foreign f => f.nature == .interrupt
  | _ => false

/-- Whether a fault is one of the exchange itself. -/
def isExchange : Fault → Bool
  | .foreign f => f.nature == .exchange
  | .nowhere _ | .garbled _ => true
  | _ => false

/-- Name and text together, as logs show a fault. -/
def summary (f : Fault) : String := f.name ++ ": " ++ f.text

end Fault

end LakeStore
