import LakeStore.Value

/-!
The vocabulary of the lake's file system: its operations with their verbs, the durability flags of a
write, and the written form of permission bits.
-/

namespace LakeStore.Remote

/-- An operation of the remote file system. -/
inductive Operation where
  | getFileStatus
  | listStatus
  | openFile
  | create
  | append
  | mkdirs
  | delete
  | rename
  deriving DecidableEq, Repr

namespace Operation

/-- The name of an operation on the wire. -/
def name : Operation → String
  | .getFileStatus => "GETFILESTATUS"
  | .listStatus => "LISTSTATUS"
  | .openFile => "OPEN"
  | .create => "CREATE"
  | .append => "APPEND"
  | .mkdirs => "MKDIRS"
  | .delete => "DELETE"
  | .rename => "RENAME"

/-- Every operation. -/
def all : List Operation :=
  [.getFileStatus, .listStatus, .openFile, .create, .append, .mkdirs, .delete, .rename]

/-- The operation of a name. -/
def ofName? (s : String) : Option Operation := all.find? fun op => op.name == s

/-- The verb that carries an operation. -/
def verb : Operation → String
  | .getFileStatus | .listStatus | .openFile => "GET"
  | .create | .mkdirs | .rename => "PUT"
  | .append => "POST"
  | .delete => "DELETE"

/-- Whether the verb of an operation carries content, be it empty. -/
def carriesContent (op : Operation) : Bool := op.verb == "PUT" || op.verb == "POST"

end Operation

/-- How durable a write is when it is answered. `close` also releases the lease. -/
inductive SyncFlag where
  | data
  | metadata
  | close
  deriving DecidableEq, Repr

/-- The name of a flag on the wire. -/
def SyncFlag.name : SyncFlag → String
  | .data => "DATA"
  | .metadata => "METADATA"
  | .close => "CLOSE"

/-- An integer in octal digits. -/
def octal (n : Int) : String :=
  (if n < 0 then "-" else "") ++ String.ofList (Nat.toDigits 8 n.natAbs)

/-- Permission bits the way the remote expects them: octal, after a zero. -/
def permission (mode : Int) : String := "0" ++ octal mode

/-- What ties a log record to one exchange with the remote. -/
structure Correlation where
  operation : Operation
  url : String
  requestId : Option String
  status : Int
  responseId : Option String
  deriving DecidableEq, Repr

/-- The log fields of an exchange. -/
def Correlation.fields (c : Correlation) : List (String × Value) :=
  [("remote_op", .text c.operation.name), ("remote_url", .text c.url),
   ("request_id", Value.ofOption .text c.requestId), ("status_code", .int c.status),
   ("response_id", Value.ofOption .text c.responseId)]

end LakeStore.Remote
