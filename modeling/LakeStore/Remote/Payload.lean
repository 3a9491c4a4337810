import LakeStore.Json.Reader
import LakeStore.Lax
import LakeStore.Time.Instant

/-!
What the remote sends in the bodies of its answers: statuses of files, lists of them, whether an operation
took effect, and the description of a failure.

Payloads are read leniently. A field may go by one of several names, of which the first that is present
counts, and an entry that is not known is passed over.
-/

namespace LakeStore.Remote

/-- The status of a file or directory. -/
structure FileStatus where
  length : Int := 0
  pathSuffix : String := ""
  type : String := "FILE"
  modificationTime : Int := 0
  deriving DecidableEq, Repr

namespace FileStatus

/-- Whether a status is one of a directory. -/
def isDirectory (s : FileStatus) : Bool := s.type == "DIRECTORY"

/-- The instant of the last change, if the count of milliseconds is one. -/
def lastModified (s : FileStatus) : Except TimeFault Instant :=
  Instant.ofMillis s.modificationTime

/-- A status from its entries. -/
def ofEntries (entries : List (String × Value)) : Checked FileStatus :=
  Checked.pure FileStatus.mk
    |>.apply (Lax.field entries "length" (some 0) Lax.int)
    |>.apply (Lax.fieldAmong entries ["pathSuffix", "path_suffix"] (some "") Lax.text)
    |>.apply (Lax.field entries "type" (some "FILE") Lax.text)
    |>.apply (Lax.fieldAmong entries ["modificationTime", "modification_time"] (some 0) Lax.int)

/-- The entries of a status. -/
def toEntries (s : FileStatus) : List (String × Value) :=
  [("length", .int s.length), ("path_suffix", .text s.pathSuffix), ("type", .text s.type),
   ("modification_time", .int s.modificationTime)]

end FileStatus

/-- How a failure describes itself. -/
structure Description where
  exception : String := ""
  message : String := ""
  javaClass : String := ""
  deriving DecidableEq, Repr

namespace Description

/-- A description from its entries. -/
def ofEntries (entries : List (String × Value)) : Checked Description :=
  Checked.pure Description.mk
    |>.apply (Lax.fieldAmong entries ["exception", "Exception"] (some "") Lax.text)
    |>.apply (Lax.fieldAmong entries ["message", "Message"] (some "") Lax.text)
    |>.apply (Lax.fieldAmong entries ["javaClassName", "JavaClassName", "javaclassname"] (some "") Lax.text)

end Description

namespace Payload

/-- The status that a value wraps. -/
def status (v : Value) : Checked FileStatus :=
  Lax.record (fun entries =>
    Lax.fieldAmong entries ["FileStatus", "file_status"] none (Lax.record FileStatus.ofEntries)) v

/-- The statuses that a value wraps twice. -/
def statuses (v : Value) : Checked (List FileStatus) :=
  Lax.record (fun entries =>
    Lax.fieldAmong entries ["FileStatuses", "file_statuses"] none (Lax.record fun entries =>
      Lax.fieldAmong entries ["FileStatus", "file_status"] (some [])
        (Lax.each .notList (Lax.record FileStatus.ofEntries)))) v

/-- Whether an operation took effect. -/
def effect (v : Value) : Checked Bool :=
  Lax.record (fun entries => Lax.field entries "boolean" none Lax.bool) v

/-- The description of a failure that a value wraps; an absent one is empty. -/
def description (v : Value) : Checked Description :=
  Lax.record (fun entries =>
    Lax.fieldAmong entries ["RemoteException", "remoteException", "remoteexception"] (some {})
      (Lax.record Description.ofEntries)) v

/-- The payload of a body, if the body is JSON of the right shape. -/
def decode? {α : Type} (read : Value → Checked α) (body : Bytes) : Option α :=
  (Json.decode? body).bind fun v => (read v).toOption

end Payload

end LakeStore.Remote
