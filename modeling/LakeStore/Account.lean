import LakeStore.Lax
import LakeStore.Remote.Operation
import LakeStore.Text.Octal

/-!
The settings of one account of the lake and of the root below which its keys lie.

The endpoint is kept without scheme, outer blanks and trailing delimiters, the bucket without outer
blanks and delimiters. Permission bits may be written in octal.
-/

namespace LakeStore

/-- One account and the bucket-like root in it. -/
structure Account where
  endpoint : String
  bucket : String := ""
  fileMode : Int := 0o644
  directoryMode : Int := 0o755
  timeout : Binary64 := .ofInt 30
  apiVersion : String := "2016-11-01"
  scheme : String := "https"
  deriving Repr

namespace Account

/-- The component that the store is registered as. -/
def componentId : String := "substrate_adl"

/-- The scheme of endpoints of the lake. -/
def endpointScheme : String := "adl"

/-- What an endpoint may start with. -/
def schemeMark : String := endpointScheme ++ "://"

/-- The first label of an endpoint. -/
def label (endpoint : String) : String := (Text.cut '.' endpoint).1

/-- What follows the first label. -/
def suffix (endpoint : String) : String := (Text.cut '.' endpoint).2

/-- An endpoint without outer blanks, one scheme and trailing delimiters. -/
def trimEndpoint (s : String) : String :=
  let s := Text.strip s
  Text.trimEnd (· = '/') ((Text.after? schemeMark s).getD s)

/-- The endpoint that a text names: an account and a suffix with a point between them. -/
def readEndpoint (s : String) : Checked String :=
  let endpoint := trimEndpoint s
  if label endpoint = "" ∨ suffix endpoint = "" then .flaw (.rule ("Invalid endpoint: " ++ s))
  else .ok endpoint

/-- A bucket without outer blanks and then without outer delimiters. -/
def trimBucket (s : String) : String := Text.trim (· = '/') (Text.strip s)

/-- The greatest permission bits. -/
def greatestMode : Int := 0o7777

/-- Permission bits in range. -/
def inRange (mode : Int) : Checked Int :=
  if mode < 0 then .flaw .tooSmall else if greatestMode < mode then .flaw .tooLarge else .ok mode

/-- Permission bits; a text is octal. -/
def readMode : Value → Checked Int
  | .text s =>
    match Text.Octal.read s with
    | .ok mode => inRange mode
    | .error why => .flaw (.rule why)
  | v => (Lax.int v).bind inRange

/-- A number of seconds greater than zero. -/
def readTimeout (v : Value) : Checked Binary64 :=
  (Lax.real v).bind fun x => if x.isPositive then .ok x else Checked.flaw .notAbove

/-- The names of the settings. -/
def declared : List String :=
  ["endpoint", "bucket", "file_mode", "dir_mode", "timeout_seconds", "api_version", "scheme"]

/-- The settings that some entries give; only the endpoint has no default. -/
def ofEntries (entries : List (String × Value)) : Checked Account :=
  Checked.pure Account.mk
    |>.apply (Lax.field entries "endpoint" none fun v => (Lax.text v).bind readEndpoint)
    |>.apply (Lax.field entries "bucket" (some "") fun v => (Lax.text v).map trimBucket)
    |>.apply (Lax.field entries "file_mode" (some 0o644) readMode)
    |>.apply (Lax.field entries "dir_mode" (some 0o755) readMode)
    |>.apply (Lax.field entries "timeout_seconds" (some (.ofInt 30)) readTimeout)
    |>.apply (Lax.field entries "api_version" (some "2016-11-01") Lax.text)
    |>.apply (Lax.field entries "scheme" (some "https") Lax.text)

/-- The settings that a table gives, which may hold nothing else. -/
def ofValue (v : Value) : Checked Account := Lax.closed declared ofEntries v

/-- The name of the account. -/
def name (a : Account) : String := label a.endpoint

/-- The suffix that the names of all accounts share. -/
def dnsSuffix (a : Account) : String := suffix a.endpoint

/-- The URL below which the remote serves the account. -/
def baseUrl (a : Account) : String := a.scheme ++ "://" ++ a.name ++ "." ++ a.dnsSuffix ++ "/webhdfs/v1"

/-- Permission bits of new files, as the remote expects them. -/
def filePermission (a : Account) : String := Remote.permission a.fileMode

/-- Permission bits of new directories, as the remote expects them. -/
def directoryPermission (a : Account) : String := Remote.permission a.directoryMode

/-- The entries of the settings. -/
def toEntries (a : Account) : List (String × Value) :=
  [("endpoint", .text a.endpoint), ("bucket", .text a.bucket), ("file_mode", .int a.fileMode),
   ("dir_mode", .int a.directoryMode), ("timeout_seconds", .real a.timeout),
   ("api_version", .text a.apiVersion), ("scheme", .text a.scheme)]

/-- What follows from the settings. -/
def derived (a : Account) : List (String × Value) :=
  [("account", .text a.name), ("dns_suffix", .text a.dnsSuffix), ("base_url", .text a.baseUrl),
   ("file_permission", .text a.filePermission), ("dir_permission", .text a.directoryPermission)]

end Account

end LakeStore
