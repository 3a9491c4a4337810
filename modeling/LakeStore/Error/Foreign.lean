import LakeStore.Error

/-!
Failures of other parties, from the name they go by and what they carry.

A failure of the operating system carries a number and a text. The number decides the name when only the
general one is known, and the name decides what is known of the failure.
-/

namespace LakeStore.Foreign

/-- The general name of a failure of the operating system. -/
def systemName : String := "OSError"

/-- The particular names of failures of the operating system, with the numbers that select them. -/
def systemNames : List (String × List Errno) :=
  [("BlockingIOError", [11, 114, 115]), ("BrokenPipeError", [32, 108]), ("ChildProcessError", [10]),
   ("ConnectionAbortedError", [103]), ("ConnectionError", []), ("ConnectionRefusedError", [111]),
   ("ConnectionResetError", [104]), ("FileExistsError", [17]), ("FileNotFoundError", [2]),
   ("InterruptedError", [4]), ("IsADirectoryError", [21]), ("NotADirectoryError", [20]),
   ("PermissionError", [1, 13]), ("ProcessLookupError", [3]), ("TimeoutError", [110])]

/-- Whether a name is one of a failure of the operating system. -/
def isSystem (name : String) : Bool :=
  name == systemName || name == "IOError" || name == "EnvironmentError" || systemNames.any fun n =>
    n.1 == name

/-- The names of failed exchanges over the network. -/
def exchangeNames : List String :=
  ["RequestError", "TransportError", "TimeoutException", "ConnectTimeout", "ReadTimeout", "WriteTimeout",
   "PoolTimeout", "NetworkError", "ConnectError", "ReadError", "WriteError", "CloseError", "ProtocolError",
   "LocalProtocolError", "RemoteProtocolError", "ProxyError", "UnsupportedProtocol", "DecodingError",
   "TooManyRedirects"]

/-- The names of requests to stop. -/
def interruptNames : List String := ["KeyboardInterrupt", "SystemExit", "GeneratorExit", "BaseException"]

/-- The names of failed connections and passed deadlines. -/
def unreachableNames : List String :=
  ["TimeoutError", "ConnectionError", "BrokenPipeError", "ConnectionAbortedError",
   "ConnectionRefusedError", "ConnectionResetError"]

/-- The names of failures in which a source could not be read. -/
def readingNames : List String := ["SyntaxError", "IndentationError", "TabError"]

/-- The names of failures of a party that speaks the protocol of the web. -/
def webNames : List String :=
  exchangeNames ++ ["HTTPError", "InvalidURL", "CookieConflict", "StreamError", "StreamConsumed",
    "StreamClosed", "ResponseNotRead", "RequestNotRead"]

/-- The texts of failures that carry nothing. -/
def standingTexts : List (String × String) :=
  [("StreamClosed", "Attempted to read or stream content, but the stream has been closed."),
   ("StreamConsumed",
    "Attempted to read or stream some content, but the content has already been streamed. For requests, this "
      ++ "could be due to passing a generator as request content, and then receiving a redirect response or "
      ++ "a secondary request as part of an authentication flow.For responses, this could be due to "
      ++ "attempting to stream the response content more than once."),
   ("ResponseNotRead",
    "Attempted to access streaming response content, without having called `read()`."),
   ("RequestNotRead",
    "Attempted to access streaming request content, without having called `read()`.")]

/-! ### The operating system -/

/-- What a failure of the operating system is made of. -/
structure System where
  number : Value
  text : Value
  /-- The file that it is about. -/
  file : Value := .null
  /-- The other file, if it is about two. -/
  other : Value := .null
  deriving DecidableEq, Repr

/-- The failure of the operating system that a name and what it carries make up: a number and a text at least,
and no more than five items. A number behind the text of a blocked call counts what went through. -/
def System.ofCarried? (name : String) (carried : List Value) : Option System :=
  let fileOf (v : Value) : Value :=
    match name, v with
    | "BlockingIOError", .int _ | "BlockingIOError", .bool _ | "BlockingIOError", .real _ => .null
    | _, v => v
  match carried with
  | [number, text] => some { number, text }
  | [number, text, file] | [number, text, file, _] => some { number, text, file := fileOf file }
  | [number, text, file, _, other] => some { number, text, file := fileOf file, other }
  | _ => none

/-- The text of a failure of the operating system. -/
def System.message (s : System) : String :=
  "[Errno " ++ s.number.display ++ "] " ++ s.text.display
    ++ (match s.file, s.other with
      | .null, _ => ""
      | file, .null => ": " ++ file.literal
      | file, other => ": " ++ file.literal ++ " -> " ++ other.literal)

/-- The number that a value stands for where names are selected by number. -/
def selecting? : Value → Option Errno
  | .int n => some n
  | .bool b => some (if b then 1 else 0)
  | _ => none

/-- The name by which a failure with some name goes: a general name gives way to the one that the number
selects. -/
def particularName (name : String) (carried : List Value) : String :=
  if isSystem name && !systemNames.any (fun n => n.1 == name) then
    let number := (System.ofCarried? name carried).bind fun s => selecting? s.number
    ((number.bind fun k => systemNames.find? fun n => n.2.contains k).map Prod.fst).getD systemName
  else name

/-! ### Sources and encodings -/

/-- The items of a sequence: those of a list, and the characters of a text. -/
def itemsOf : Value → List Value
  | .list items => items
  | .text s => s.toList.map fun c => .text (String.singleton c)
  | _ => []

/-- The spot that a failure to read a source carries: what is wrong, and a sequence that says where. -/
def spotOf : List Value → Spot
  | [] => {}
  | [message, place] =>
    match itemsOf place with
    | file :: line :: column :: source :: rest =>
      { message, file, line, column, source, endColumn := (rest.drop 1).headD .null }
    | _ => { message }
  | message :: _ => { message }

/-- The finding that a failure to encode a text carries. -/
def unencodable? (name : String) : List Value → Option Text.Unencodable
  | [encoding, .text text, .int start, .int stop, reason] =>
    if name = "UnicodeEncodeError" then some ⟨some encoding.display, text, start, stop, reason.display⟩
    else none
  | [.text text, .int start, .int stop, reason] =>
    if name = "UnicodeTranslateError" then some ⟨none, text, start, stop, reason.display⟩ else none
  | _ => none

/-! ### Failures -/

/-- What the name of a failure and what it carries say about it. -/
def natureOf (name : String) (carried : List Value) : Nature :=
  if name = "FileNotFoundError" then .missing
  else if name = "PermissionError" then .denied
  else if name ∈ unreachableNames then .unreachable
  else if name ∈ exchangeNames then .exchange
  else if name ∈ interruptNames then .interrupt
  else if name ∈ readingNames then .unread (spotOf carried)
  else
    match isSystem name, System.ofCarried? name carried with
    | true, some s => if s.number = .null then .unknown else .numbered s.number
    | _, _ => .unknown

/-- The text of what a failure carries. A single item stands for itself. -/
def carriedText : List Value → String
  | [] => ""
  | [v] => v.display
  | vs => "(" ++ Text.join ", " (Value.literals vs) ++ ")"

/-- The text of a failure with a name: what it carries, or what the kind of the failure makes of it. -/
def textOf (name : String) (carried : List Value) : String :=
  let system := if isSystem name then System.ofCarried? name carried else none
  match system, unencodable? name carried, carried with
  | some s, _, _ => s.message
  | none, some u, _ => u.message
  | none, none, [] =>
    if name ∈ readingNames then (spotOf []).text else (standingTexts.lookup name).getD ""
  | none, none, [v] =>
    if name = "KeyError" then v.literal else if name ∈ readingNames then (spotOf [v]).text else v.display
  | none, none, vs => if name ∈ readingNames then (spotOf vs).text else carriedText vs

/-- A failure from its name and what it carries. -/
def ofCarried (name : String) (carried : List Value) : Foreign :=
  let name := particularName name carried
  ⟨name, textOf name carried, natureOf name carried⟩

end LakeStore.Foreign

namespace LakeStore.Fault

/-- The parts of the program that name faults of their own. -/
def home : Fault → String
  | .store _ => "packages.lakeblob_shared.errors.types."
  | .request _ => "packages.lakeblob_shared.http.errors."
  | .closedBody | .url _ | .nowhere _ | .garbled _ => "httpx."
  | .foreign f =>
    if f.name = "HttpError" then "packages.lakeblob_shared.http.errors."
    else if f.name = "ManifestError" then "packages.lakeblob_shared.manifest."
    else if f.name ∈ Foreign.webNames then "httpx."
    else ""
  | _ => ""

/-- A fault in full: its name with the part of the program that it belongs to, and its text if it has one. A
source that could not be read is shown with the spot. -/
def listing (f : Fault) : String :=
  match f with
  | .foreign ⟨name, _, .unread spot⟩ => spot.excerpt name
  | f => f.home ++ f.name ++ (if f.text = "" then "" else ": " ++ f.text)

end LakeStore.Fault
