import LakeStore.Account
import LakeStore.Http.Client
import LakeStore.Identifier

/-!
The remote file system over the web.

Each call of the remote becomes one exchange: the operation and its parameters make up the query, the path
follows the base of the account, and an identifier that was never used before ties the exchange to the log.
Every status is an answer. A call fails only if no complete answer was received; a streamed body that
breaks off fails later, when it is read.
-/

namespace LakeStore.Remote

/-- The way to the remote for one account. -/
structure Transport where
  account : Account
  client : Http.Client

namespace Transport

/-- The field that carries the identifier of an exchange. -/
def requestIdField : String := "x-ms-request-id"

/-- The transport of an account, if its base is a URL. Its requests are authorized one by one. -/
def ofAccount (a : Account) : Except Fault Transport :=
  (Http.Client.make a.baseUrl).map fun client => ⟨a, { client with authorizes := true }⟩

/-- Gives up the connections of a transport. -/
def close (t : Transport) : Transport := { t with client := t.client.close }

/-- Where a path lies below the base. -/
def location (path : String) : String :=
  "/" ++ Text.Percent.encode Text.Percent.keepsInPath (Text.trimStart (· = '/') path)

/-- The query of a request: its operation, its parameters, and the version of the interface. -/
def params (t : Transport) (r : Request) : List (String × String) :=
  Entries.put "api-version" t.account.apiVersion (Entries.putAll [("op", r.operation.name)] r.params)

/-- The query of a request as a text. -/
def query (t : Transport) (r : Request) : String := Text.Form.encode (t.params r)

/-- The content of a request; a verb that carries content carries some. -/
def content (r : Request) : Option Blob.Content :=
  r.content.orElse fun _ => if r.operation.carriesContent then some (.whole []) else none

/-- What is sent for a request. -/
def draft (t : Transport) (r : Request) (requestId : String) : Http.Draft where
  method := r.operation.verb
  url := location r.path
  query := some (some (t.query r))
  headers := [(requestIdField, requestId)]
  content := content r
  stream := r.stream

/-- The record of a call that is about to be sent. -/
def callNote (r : Request) (requestId : String) : Log.Note where
  source := .transport
  level := .debug
  message := "adl remote call"
  fields := [("remote_op", .text r.operation.name), ("remote_url", .text (location r.path)),
    ("request_id", .text requestId)]

/-- The record of a response. -/
def responseNote (r : Response) : Log.Note where
  source := .transport
  level := .debug
  message := "adl remote response"
  fields := [("remote_op", .text r.operation.name), ("request_id", Value.ofOption .text r.requestId),
    ("response_id", Value.ofOption .text r.responseId), ("status_code", .int r.status)]

/-- What a reader of a streamed body sees when the body breaks off: a failure of the exchange may pass. -/
def breakage (url : String) (fault : Fault) : Fault :=
  if fault.isExchange then
    .store (.temporary .transient ("reading " ++ url ++ " failed: " ++ fault.text) .null
      (some (.other fault.name)))
  else fault

/-- The stream over a body. To close it is to give up the connection. -/
def streamOf (url : String) : Http.Body → Blob.Stream
  | .received bytes => { pending := [bytes], release := some (.ok ()) }
  | .onWire chunks ending =>
    { pending := chunks, ending := ending.map (breakage url), onWire := true, release := some (.ok ()) }

/-- The answer to a request, apart from its body. -/
def answer (r : Request) (requestId : String) (sent : Http.Request) (response : Http.Response) :
    Response where
  operation := r.operation
  status := response.status
  headers := response.headers.flatten
  url := sent.url.text
  requestId := some requestId
  responseId := response.headers.get? requestIdField

/-- An answer with its body: a successful answer to a streaming request is left on the wire, and any other
body is read to its end. -/
def withBody (r : Request) (sent : Http.Request) (body : Http.Body) (answer : Response) :
    Http.Call Response := do
  if r.stream && answer.isSuccess then return { answer with stream := some (streamOf answer.url body) }
  else if r.stream then
    return { answer with body := ← Http.Client.attributing "HTTP body read" sent (Http.Call.drain body) }
  else return { answer with body := ← liftM body.read }

/-- Sends one request under a fresh identifier. -/
def send (t : Transport) (r : Request) : Http.Call Response := do
  let requestId := Identifier.numbered (← ExceptT.lift Dialogue.serial)
  ExceptT.lift (Dialogue.log (callNote r requestId))
  let (sent, response) ← t.client.send (t.draft r requestId)
  let answer := answer r requestId sent response
  ExceptT.lift (Dialogue.log (responseNote answer))
  withBody r sent response.body answer

/-- A computation that calls the remote, over this transport. -/
def carry {α : Type} (t : Transport) (task : Call α) : Http.Call α :=
  Dialogue.via (P := protocol) (fun r => (t.send r).run) task.run

end Transport

end LakeStore.Remote
