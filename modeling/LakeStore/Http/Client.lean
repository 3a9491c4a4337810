import LakeStore.Http.Exchange
import LakeStore.Text.Base64
import LakeStore.Text.Case

/-!
A client of the web: a base below which its requests go, and fields that all of them carry.

Every status is an answer. Only an exchange that does not end in a complete answer fails, and such a
failure says which request it was; failures of other parties pass through.
-/

namespace LakeStore.Http

/-- A client. One that is borrowed is not closed by its borrower. -/
structure Client where
  base : Url
  headers : Headers := []
  /-- Whether each request is authorized anew. -/
  authorizes : Bool := false
  borrowed : Bool := false
  closed : Bool := false

/-- A request as a caller states it. -/
structure Draft where
  method : String
  url : String
  /-- What is to replace the query of the URL, if anything is: another query, or none. -/
  query : Option (Option String) := none
  headers : Headers := []
  content : Option Blob.Content := none
  /-- Whether the body of the response is left on the wire. -/
  stream : Bool := false

namespace Draft

/-- The text of a value in a query. -/
def queryText : Value → String
  | .null => ""
  | .bool b => if b then "true" else "false"
  | v => v.display

/-- The pairs of parameters: a list gives its name a value after the other. -/
def pairsOf (params : List (String × Value)) : List (String × String) :=
  params.flatMap fun (name, v) =>
    match v with
    | .list items => items.map fun item => (name, queryText item)
    | v => [(name, queryText v)]

/-- The query that parameters make up. Without parameters there is none; parameters without values make up
an empty one. -/
def queryOf (params : List (String × Value)) : Option String :=
  if params = [] then none else some (Text.Form.encode (pairsOf params))

/-- Whether requests of a method always say how long their content is. -/
def alwaysMeasured (method : String) : Bool := method == "POST" || method == "PUT" || method == "PATCH"

/-- The fields of a message with its length among them: content of known length states it, and any other
comes in chunks. -/
def measured (method : String) (content : Option Blob.Content) (h : Headers) : Headers :=
  let h := match content with
    | some (.whole bytes) => if bytes = [] then h else h.default "Content-Length" (toString bytes.length)
    | some (.chunked _) => if h.has "Content-Length" then h else h.default "Transfer-Encoding" "chunked"
    | none => h
  if h.has "Content-Length" || h.has "Transfer-Encoding" || !alwaysMeasured method then h
  else h.default "Content-Length" "0"

end Draft

namespace Client

/-- The base that a text spells. -/
def readBase (base : String) : Except UrlFault Url := do (← Url.ofText base).asBase

/-- A client below a base, with fields of its own. -/
def make (base : String) (headers : Headers := []) : Except Fault Client := do
  let base ← (readBase base).mapError .url
  headers.check.mapError .field
  return { base, headers }

/-- Closes a client, unless it is borrowed. -/
def close (c : Client) : Client := if c.borrowed then c else { c with closed := true }

/-- The URL of a draft. -/
def urlOf (c : Client) (d : Draft) : Except UrlFault Url := do (← Url.ofText d.url).below c.base

/-- The request that a draft stands for, before it is authorized. -/
def request (c : Client) (d : Draft) : Except Fault Request := do
  let url ← (c.urlOf d).mapError .url
  d.headers.check.mapError .field
  let url ← ((d.query.map url.withQuery).getD (.ok url)).mapError .url
  let method := Text.upper d.method
  let headers := Draft.measured method d.content (c.headers.replace d.headers)
  return { method, url, headers, content := d.content.getD (.whole []) }

/-- The name and the password that a URL gives for its user, if it gives any. -/
def user? (url : Url) : Option (Bytes × Bytes) :=
  let (name, password) := Text.cutAt ':' url.userinfo.toList
  let bytesOf (cs : List Char) : Bytes :=
    Utf8.encode (String.ofList (Utf8.decodeLeniently (Text.Percent.decode cs)))
  let pair := (bytesOf name, bytesOf (password.getD []))
  if pair = ([], []) then none else some pair

/-- The value that authorizes a request for some user. -/
def basic (user : Bytes × Bytes) : String :=
  "Basic " ++ String.ofList (Base64.encode (user.1 ++ Utf8.encode ":" ++ user.2))

/-- A request with its authorization, if the client authorizes or the URL names a user. -/
def authorized (c : Client) (r : Request) : Call Request := do
  if c.authorizes then
    return { r with headers := r.headers.replace [("Authorization", ← Call.authorize)] }
  else
    match user? r.url with
    | some user => return { r with headers := r.headers.replace [("Authorization", basic user)] }
    | none => return r

/-- The statuses of responses that lead elsewhere. -/
def redirections : List Int := [301, 302, 303, 307, 308]

/-- Demands that the place a response leads to is a URL; one with a scheme and no host is on the host of the
request. To find out whether it is the same host, both are shown. -/
def checkPlace (sent : Url) (place : String) : Except Fault Unit := do
  let url ← (Url.ofText place).mapError .nowhere
  (Host.checkShown url.host).mapError .host
  (Host.checkShown sent.host).mapError .host
  if url.scheme != "" && url.host = "" then
    let _ ← (url.withHost sent.host).mapError .url

/-- Whether a text starts with something like a scheme: any characters but a slash, and a colon. -/
def hasKind (s : String) : Bool :=
  let (kind, rest) := s.toList.span fun c => c != '/' && c != ':'
  kind != [] && rest.head? == some ':'

/-- Demands that a response to a request makes sense: the request says what it is valid for, and if it leads
elsewhere, there is such a place. -/
def check (sent : Url) (r : Response) : Except Fault Unit :=
  if !hasKind sent.text then .error (.schemeless sent.text)
  else if redirections.contains r.status then (r.headers.get? "location").elim (.ok ()) (checkPlace sent)
  else .ok ()

/-- Sends a request. Redirections are not followed, but they have to make sense. -/
def transmit (c : Client) (r : Request) (stream : Bool) : Call Response := do
  let response ← liftM (← Call.send (← c.authorized r)).decoded
  match check r.url response with
  | .error fault =>
    Call.release
    throw fault
  | .ok _ =>
    if stream then return response
    else return { response with body := .received (← Call.drain response.body) }

/-- The failure of an exchange that some request was part of. -/
def failureOf (what : String) (r : Request) (cause : Fault) : Fault :=
  .request
    { message := what ++ " failed for " ++ r.method ++ " " ++ r.url.text
      method := r.method, url := r.url.text, cause := some cause.name }

/-- A call in which a failure of the exchange says which request it belongs to. -/
def attributing {α : Type} (what : String) (r : Request) (call : Call α) : Call α :=
  tryCatch call fun fault => throw (if fault.isExchange then failureOf what r fault else fault)

/-- Sends what a draft stands for. -/
def send (c : Client) (d : Draft) : Call (Request × Response) :=
  match c.request d with
  | .error fault => throw fault
  | .ok r =>
    if c.closed then throw .closedClient
    else attributing "HTTP request" r do return (r, ← c.transmit r d.stream)

end Client

end LakeStore.Http
