import LakeStore.Account
import LakeStore.Instrument
import LakeStore.Listing
import LakeStore.Upload

/-!
The blob store over a hierarchical file system with leases.

Keys lie below the bucket of an account. Directories are blobs with a trailing delimiter; the file system
has neither copies on the server nor listings that can be resumed. Every operation but the plainest ones is
told of in the log when it starts and when it ends.
-/

namespace LakeStore

open Remote (Request Response SyncFlag FileStatus execute fetch takesEffect)

/-- A backend: an account, and the number of directories that one listing may enter. -/
structure Backend where
  account : Account
  reach : Nat

namespace Backend

/-- The operations that are told of in the log. -/
inductive Api where
  | probe
  | head
  | list
  | delete
  | deleteAll
  | rename
  | copy
  | get
  | put
  | beginUpload
  | addPart
  | commitUpload
  | abortUpload
  | makeContainer
  | removeContainer
  deriving DecidableEq, Repr

namespace Api

/-- The name of an operation in the log. -/
def name : Api → String
  | .probe => "init"
  | .head => "head_object"
  | .list => "list_objects"
  | .delete => "delete_object"
  | .deleteAll => "delete_objects"
  | .rename => "rename_object"
  | .copy => "copy_object"
  | .get => "get_object"
  | .put => "put_object"
  | .beginUpload => "begin_multipart"
  | .addPart => "add_part"
  | .commitUpload => "commit_multipart"
  | .abortUpload => "abort_multipart"
  | .makeContainer => "make_container"
  | .removeContainer => "remove_container"

/-- The arguments by which calls of an operation are identified. -/
def identifying : Api → List String
  | .probe | .head | .delete | .get | .put | .beginUpload => ["key"]
  | .list => ["prefix", "delimiter"]
  | .rename | .copy => ["source", "destination"]
  | .addPart => ["size"]
  | .deleteAll | .commitUpload | .abortUpload | .makeContainer | .removeContainer => []

/-- The arguments that a call of an operation cannot do without. -/
def required : Api → List String
  | .head | .delete | .get | .put | .beginUpload => ["key"]
  | .deleteAll => ["keys"]
  | .rename | .copy => ["source", "destination"]
  | .addPart => ["commit", "body", "size"]
  | .commitUpload | .abortUpload => ["commit"]
  | .probe | .list | .makeContainer | .removeContainer => []

/-- The arguments that a call of an operation may have. -/
def optional : Api → List String
  | .probe => ["key"]
  | .list => ["prefix", "delimiter", "continuation_token", "start_after", "max_keys"]
  | .get => ["range_start", "range_count", "if_match"]
  | .put => ["body", "is_directory"]
  | _ => []

/-- Every operation. -/
def all : List Api :=
  [.probe, .head, .list, .delete, .deleteAll, .rename, .copy, .get, .put, .beginUpload, .addPart,
   .commitUpload, .abortUpload, .makeContainer, .removeContainer]

/-- The operation of a name. -/
def ofName? (s : String) : Option Api := all.find? fun api => api.name == s

/-- Names in a sentence. -/
def enumerated : List String → String
  | [] => ""
  | [a] => a
  | [a, b] => a ++ " and " ++ b
  | names => Text.join ", " names.dropLast ++ ", and " ++ names.getLastD ""

/-- Why arguments of some names do not fit an operation, if they do not: there is one that it does not take,
or there are some missing that it needs. -/
def misfit? (api : Api) (given : List String) : Option String :=
  let call := "AdlBlobBackend." ++ api.name ++ "()"
  let missing := api.required.filter fun name => !given.contains name
  match given.find? fun name => !(api.required ++ api.optional).contains name with
  | some name => some (call ++ " got an unexpected keyword argument " ++ Text.quoted name)
  | none =>
    if missing = [] then none
    else
      some (call ++ " missing " ++ toString missing.length ++ " required keyword-only argument"
        ++ (if missing.length = 1 then "" else "s") ++ ": " ++ enumerated (missing.map Text.quoted))

end Api

/-- Writes a record of the backend. -/
def recorder : Recorder (Dialogue Remote.protocol) := fun level message fields =>
  Dialogue.log
    { source := .backend, level, message,
      fields := Entries.mapValues Value.text (Log.Context.bind [] fields) }

/-- The instrument of the backend: it writes records, and reads a clock that stands still. -/
def instrument : Instrument (Dialogue Remote.protocol) where
  concerns := [Concern.logging recorder]
  record := some recorder
  clock := pure .zero

/-- A call of an operation, told of in the log with those of its arguments that identify it. -/
def observed {α : Type} (api : Api) (arguments : List (String × Value)) (task : Call α) : Call α :=
  instrument.observe ⟨Account.componentId, api.name, Invocation.referencesOf api.identifying arguments⟩ task

/-- A call that does not fit its operation. -/
def reject (api : Api) (arguments : List (String × Value)) (why : String) : Call Unit :=
  observed api arguments (throw (.misfit why))

variable (b : Backend)

/-- The root below which keys lie. -/
def bucket : String := b.account.bucket

/-- The remote path of a key. -/
def path (key : String) : String := Key.remotePath b.bucket key

/-- What a consumer needs to know about this backend. -/
def capabilities : Blob.Capabilities :=
  { noParallelMultipart := true, directoriesAreBlobs := true, name := "adl" }

/-- A lasting failure. -/
def fail {α : Type} (kind : FinalKind) (message : String) (key : Value := .null) : Call α :=
  throw (.store (.final kind message key))

/-- Looks at the root. A missing path is no failure here. -/
def probe (key : String) : Call Unit :=
  observed .probe [("key", .text key)] do
    let r : Request := { operation := .getFileStatus, path := b.path key }
    match ← ExceptT.lift (execute r true).run with
    | .ok _ => return
    | .error (.store (.remote f)) =>
      if f.exception ≠ Remote.fileNotFound then throw (.store (.remote f))
    | .error fault => throw fault

/-- The instant of the last change of a status. -/
def lastModified (s : FileStatus) : Call Moment :=
  match s.lastModified with
  | .ok t => return Moment.ofInstant t
  | .error e => throw (.time e)

/-- Size, time of the last change and type of one path. -/
def head (key : String) : Call Blob.Head :=
  observed .head [("key", .text key)] do
    let s ← fetch Remote.Payload.status { operation := .getFileStatus, path := b.path key }
    return ⟨key, s.length, some (← lastModified s), s.isDirectory⟩

/-- How a listing is to be done. -/
structure ListOptions where
  root : String := ""
  delimiter : Option String := none
  continuationToken : Option String := none
  startAfter : Option String := none
  maxKeys : Option Int := none
  deriving DecidableEq, Repr

namespace ListOptions

/-- Without delimiter the whole subtree is listed. -/
def isRecursive (o : ListOptions) : Bool := o.delimiter.isNone

/-- The marker after which rows count. -/
def marker (o : ListOptions) : Option String := o.startAfter.orElse fun _ => o.continuationToken

/-- Why a listing is not supported, if it is not. -/
def objection? (o : ListOptions) : Option String :=
  match o.delimiter with
  | none =>
    if o.continuationToken.isSome ∨ o.startAfter.isSome then some "flat listing cannot resume from a marker"
    else none
  | some d => if d = "/" then none else some ("unsupported delimiter " ++ Text.quoted d)

/-- The arguments of a listing. -/
def arguments (o : ListOptions) : List (String × Value) :=
  [("prefix", .text o.root), ("delimiter", Value.ofOption .text o.delimiter)]

end ListOptions

/-- The statuses of the children of a key. -/
def children (key : String) : Call (List FileStatus) :=
  fetch Remote.Payload.statuses { operation := .listStatus, path := b.path key }

/-- A walk over the tree below the bucket. -/
def walk (o : ListOptions) : Call (List Listing.Row) := do
  let walk := (Listing.walk o.isRecursive b.reach o.root).run.run o.maxKeys
  let (rows, _) ← ExceptT.lift (walk.via fun key => (b.children key).run)
  liftM rows

/-- Lists below a prefix. Listings are never truncated. -/
def list (o : ListOptions) : Call Blob.Listing :=
  observed .list o.arguments do
    match o.objection? with
    | some why => fail .notSupported why (.text o.root)
    | none => return Listing.collect o.marker (← b.walk o)

/-- The request that deletes a path, unless it is a directory that is not empty. -/
def deleteRequest (path : String) : Request :=
  { operation := .delete, path, params := [("recursive", "false")] }

/-- Deletes a key. Its trailing delimiters do not matter. -/
def deleteKey (key : String) : Call Unit := do
  if !(← takesEffect (deleteRequest (b.path (Key.stem key)))) then
    fail .notFound ("nothing to delete at " ++ key) (.text key)

/-- Deletes one object or empty directory. -/
def delete (key : String) : Call Unit := observed .delete [("key", .text key)] (b.deleteKey key)

/-- Deletes keys, children before their parents; the first failure ends the batch. -/
def deleteAll (keys : List String) : Call Unit :=
  observed .deleteAll [] ((Key.deletionOrder keys).forM b.deleteKey)

/-- Renames a key over another one. -/
def rename (source destination : String) : Call Unit :=
  observed .rename [("source", .text source), ("destination", .text destination)] do
    let r : Request :=
      { operation := .rename, path := b.path source
        params := [("destination", "/" ++ b.path destination), ("renameoptions", "OVERWRITE")] }
    if !(← takesEffect r) then fail .notFound ("rename source " ++ source ++ " not found") (.text source)

/-- Copies on the server are not supported. -/
def copy (source destination : String) : Call Unit :=
  observed .copy [("source", .text source), ("destination", .text destination)]
    (fail .notSupported "server-side copy is not supported" (.text source))

/-- Which part of an object to open, and for which session. -/
structure GetOptions where
  rangeStart : Int := 0
  rangeCount : Int := 0
  ifMatch : Option String := none
  deriving DecidableEq, Repr

/-- The parameters of an opening. A start or count of zero says nothing. Numbers are written with all their
digits; that a runtime may refuse to write more than some thousand digits is left out. -/
def GetOptions.params (o : GetOptions) : List (String × String) :=
  [("read", "true")]
    ++ (if o.rangeCount = 0 then [] else [("length", toString o.rangeCount)])
    ++ (if o.rangeStart = 0 then [] else [("offset", toString o.rangeStart)])
    ++ (match o.ifMatch with
      | some token => [("filesessionid", Identifier.session token)]
      | none => [])

/-- Opens the body of an object. The caller closes the stream. -/
def get (key : String) (o : GetOptions := {}) : Call (Blob.Opened × Blob.Stream) :=
  observed .get [("key", .text key)] do
    let response ← execute
      { operation := .openFile, path := b.path key, params := o.params, stream := true }
    let body := response.stream.getD (.ofBody response.body)
    return ({ key, contentType := Entries.find? "content-type" response.headers }, body)

/-- Creates a directory, unless it exists. -/
def makeDirectory (key : String) : Call Unit := do
  let r : Request :=
    { operation := .mkdirs, path := b.path key, params := [("permission", b.account.directoryPermission)] }
  if !(← takesEffect r true) then
    fail .alreadyExists ("directory " ++ key ++ " already exists") (.text key)

/-- The request that replaces a file. -/
def putRequest (key : String) (body : Blob.Content) : Request where
  operation := .create
  path := b.path key
  params := [("write", "true"), ("overwrite", "true"), ("syncFlag", SyncFlag.close.name),
    ("permission", b.account.filePermission)]
  content := some body

/-- Replaces an object, or creates the placeholder of a directory. -/
def put (key : String) (body : Blob.Content := .whole []) (isDirectory : Bool := false) : Call Unit :=
  observed .put [("key", .text key)] do
    if isDirectory then b.makeDirectory key
    else do
      let _ ← execute (b.putRequest key body)

/-- Begins an upload in parts. -/
def beginUpload (key : String) : Call Upload :=
  observed .beginUpload [("key", .text key)] (Upload.start b.account.filePermission key (b.path key))

/-- Appends one part to an upload. The handle counts the part at once. -/
def addPart (h : Handle) (body : Blob.Content) (size : Int) : Handle × Call Unit :=
  let (h, task) := h.add body size
  (h, observed .addPart [("size", .int size)] task)

/-- Ends an upload. -/
def commitUpload (h : Handle) : Call Unit := observed .commitUpload [] do (← h.require).commit

/-- Gives an upload up. -/
def abortUpload (h : Handle) : Call Unit := observed .abortUpload [] do (← h.require).abort

/-- Uploads do not expire. -/
def expireUploads : Call Unit := fail .notSupported "multipart expiry is not supported"

/-- Refuses to go on without a bucket. -/
def requireBucket : Call Unit := do
  if b.bucket = "" then fail .invalidArgument "no container configured"

/-- Creates the root as a directory. -/
def makeContainer : Call Unit :=
  observed .makeContainer [] do
    b.requireBucket
    b.makeDirectory ""

/-- Removes the root, which must be empty. -/
def removeContainer : Call Unit :=
  observed .removeContainer [] do
    b.requireBucket
    if !(← takesEffect (deleteRequest (b.path ""))) then
      fail .notFound ("container " ++ b.bucket ++ " not found")

end Backend

end LakeStore
