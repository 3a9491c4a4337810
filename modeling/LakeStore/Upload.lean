import LakeStore.Identifier
import LakeStore.Remote.Execution

/-!
Uploads in parts, over a remote that can only append.

An upload begins with an empty file under a fresh lease. Each part is appended where the part before it
ended, by the count of the handle, and the last call closes the file and so releases the lease. A part that
is refused because the file does not end there may have been appended by a call whose answer was lost: the
file is then closed at the end of the part, which only succeeds where the part is. An upload that is given
up keeps what was appended.
-/

namespace LakeStore

/-- The handle of an upload in progress. Its identifier is the lease, its size counts the bytes of all
parts that were tried. -/
structure Upload where
  key : String
  remotePath : String
  lease : String
  size : Int := 0
  deriving DecidableEq, Repr

/-- What a caller holds for an upload: a handle of this backend, or one of another type. -/
inductive Handle where
  | upload (u : Upload)
  | other (type : String)
  deriving DecidableEq, Repr

namespace Upload

open Remote (Request Response SyncFlag execute note)

/-- The request that creates an empty file under a lease. -/
def createRequest (permission path lease : String) : Request where
  operation := .create
  path := path
  params := [("write", "true"), ("overwrite", "true"), ("syncFlag", SyncFlag.data.name), ("leaseid", lease),
    ("permission", permission)]
  content := some (.whole [])

/-- The request that appends to a file under its lease, at an offset if one is given. An offset is written
with all its digits; that a runtime may refuse to write numbers of more than some thousand digits is left
out. -/
def appendRequest (u : Upload) (offset : Option Int) (flag : SyncFlag) (body : Blob.Content := .whole []) :
    Request where
  operation := .append
  path := u.remotePath
  params := [("append", "true"), ("syncFlag", flag.name), ("leaseid", u.lease), ("filesessionid", u.lease)]
    ++ offset.toList.map fun n => ("offset", toString n)
  content := some body

/-- Begins an upload under a fresh lease. -/
def start (permission key path : String) : Call Upload := do
  let lease := Identifier.numbered (← ExceptT.lift Dialogue.serial)
  let _ ← execute (createRequest permission path lease)
  return { key, remotePath := path, lease }

/-- The handle after another part of `size` bytes was tried. -/
def extend (u : Upload) (size : Int) : Upload := { u with size := u.size + size }

/-- Whether a part that was refused for its offset is in the file: the file can be closed behind it. -/
def landed (u : Upload) : Call Bool := do
  match ← ExceptT.lift (execute (u.appendRequest (some u.size) .close)).run with
  | .ok _ =>
    note .multipart .info "bad offset append already landed" [("key", .text u.key), ("size", .int u.size)]
    return true
  | .error (.store e) =>
    note .multipart .debug ("bad offset probe failed for " ++ u.remotePath ++ ": " ++ e.text)
    return false
  | .error fault => throw fault

/-- What a structured failure to append is to the caller. A missing file or lease cannot be recovered. -/
def refusal (u : Upload) (f : RemoteFailure) : Call Unit := do
  if f.status = 404 then
    throw (.store (.final .invalidArgument
      ("append rejected for " ++ u.key ++ ": " ++ (StoreError.remote f).text) (.text u.key)))
  else if f.status = 400 ∧ f.exception = Remote.badOffset then
    if ← u.landed then return
  throw (.store (← ExceptT.lift (Remote.Classification.remap f)))

/-- Appends the last part of a handle, `size` bytes long. -/
def appendLast (u : Upload) (body : Blob.Content) (size : Int) : Call Unit := do
  match ← ExceptT.lift (execute (u.appendRequest (some (u.size - size)) .data body) true).run with
  | .ok _ => return
  | .error (.store (.remote f)) => u.refusal f
  | .error fault => throw fault

/-- Appends one part of `size` bytes after all parts tried so far. The handle counts the part at once,
whatever becomes of the call. -/
def add (u : Upload) (body : Blob.Content) (size : Int) : Upload × Call Unit :=
  let u := u.extend size
  (u, u.appendLast body size)

/-- Whether an error says that a file does not exist. -/
def isMissing : Fault → Bool
  | .store (.final .notFound ..) => true
  | _ => false

/-- Closes the file at its size. A file that is gone by then had every part appended. -/
def commit (u : Upload) : Call Unit := do
  match ← ExceptT.lift (execute (u.appendRequest (some u.size) .close)).run with
  | .ok _ => return
  | .error fault =>
    if isMissing fault then
      note .multipart .debug ("commit of " ++ u.key ++ " found no file; data was appended")
    else throw fault

/-- Closes the file wherever it ends. -/
def abort (u : Upload) : Call Unit := do
  let _ ← execute (u.appendRequest none .close)

end Upload

/-- The entries of a handle. -/
def Upload.toEntries (u : Upload) : List (String × Value) :=
  [("key", .text u.key), ("remote_path", .text u.remotePath), ("upload_id", .text u.lease),
    ("size", .int u.size)]

namespace Handle

/-- The upload of a handle of this backend. -/
def require : Handle → Call Upload
  | .upload u => return u
  | .other type => throw (.handle type)

/-- Appends one part to the upload of a handle. -/
def add (h : Handle) (body : Blob.Content) (size : Int) : Handle × Call Unit :=
  match h with
  | .upload u => let (u, task) := u.add body size; (.upload u, task)
  | .other type => (.other type, throw (.handle type))

end Handle

end LakeStore
