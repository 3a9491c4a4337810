import Mathlib.Data.List.TakeDrop
import LakeStore.Proofs.Lapse
import LakeStore.Proofs.Overlay

/-!
What arrives when an object is opened.

To open an object is to ask for one response and to leave its body where it is. The stream that the caller
gets gives the body as it came, however it was cut into chunks, and nothing of it is read before the caller
reads; the first closing of the stream releases the response. The content type is the value of the last
field of that name, in any case.
-/

namespace LakeStore.Http

namespace Headers

/-- Of the fields of a name counts the last one. -/
theorem find?_flatten (name : String) (h : Headers) :
    Entries.find? (Text.lowerAscii name) h.flatten = (h.values name).getLast? := by
  have hnil : (Entries.names ([] : List (String × String))).Nodup := List.nodup_nil
  rw [flatten, Entries.find?_putAll hnil, Entries.find?_nil, Option.or_none, Entries.find?_eq_getLast?,
    List.filter_map, List.map_map, values]
  rfl

theorem values_of_not_has {name : String} {h : Headers} (hname : h.has name = false) :
    h.values name = [] := by
  rw [values, List.map_eq_nil_iff, List.filter_eq_nil_iff]
  exact List.any_eq_false.mp hname

end Headers

/-! ### Bodies without codings -/

namespace Body

/-- The chunks in which a body comes. -/
def chunks : Body → List Bytes
  | .received bytes => [bytes]
  | .onWire chunks _ => chunks

/-- A body whose chunks on the wire are none of them empty. -/
def sifted : Body → Body
  | .received bytes => .received bytes
  | .onWire chunks ending => .onWire (chunks.filter (· ≠ [])) ending

end Body

theorem Coding.decodeChunks_nil (chunks : List Bytes) :
    decodeChunks [] chunks = (chunks.filter (· ≠ []), none) := by
  induction chunks with
  | nil => rfl
  | cons chunk rest ih =>
    show (if chunk = [] then decodeChunks [] rest
      else (chunk :: (decodeChunks [] rest).1, (decodeChunks [] rest).2)) = _
    rw [ih]
    by_cases hchunk : chunk = []
    · rw [if_pos hchunk, List.filter_cons_of_neg (by simpa using hchunk)]
    · rw [if_neg hchunk, List.filter_cons_of_pos (by simpa using hchunk)]

/-- A response without codings is taken as it is. -/
theorem Response.decoded_of_uncoded {raw : Response} (h : raw.headers.has "content-encoding" = false) :
    raw.decoded = .ok { raw with body := raw.body.sifted } := by
  have hcodings : Coding.ofHeaders raw.headers = [] := by
    rw [Coding.ofHeaders, Headers.values_of_not_has h]; rfl
  have hdecode (chunks : List Bytes) : Coding.decode [] chunks = (chunks.filter (· ≠ []), none) :=
    Coding.decodeChunks_nil chunks
  obtain ⟨status, headers, body⟩ := raw
  rw [Response.decoded, hcodings]
  cases body with
  | received bytes =>
    simp only [hdecode, List.flatten_filter_ne_nil, List.flatten_singleton, Body.sifted]
  | onWire chunks ending => simp only [hdecode]; rfl

/-- A successful response makes sense to every request with a kind of URL. -/
theorem Client.check_of_success {u : Url} {r : Response} (hkind : hasKind u.text = true)
    (hleast : 200 ≤ r.status) (hgreatest : r.status < 300) : check u r = .ok () := by
  have hstays : redirections.contains r.status = false := by
    simp only [redirections, List.contains_cons, List.contains_nil, Bool.or_false, Bool.or_eq_false_iff,
      beq_eq_false_iff_ne]
    omega
  rw [check, hkind, hstays]; rfl

theorem Client.hasKind_of_scheme {scheme : String} (hne : scheme ≠ "")
    (hscheme : ∀ c ∈ scheme.toList, Url.isSchemeChar c = true) (rest : String) :
    hasKind (scheme ++ ":" ++ rest) = true := by
  have hlist : (scheme ++ ":" ++ rest).toList = scheme.toList ++ ':' :: rest.toList := by
    rw [String.toList_append, String.toList_append, List.append_assoc]; rfl
  have hpass : ∀ c ∈ scheme.toList, (c != '/' && c != ':') = true := by
    intro c hc
    have hchar := hscheme c hc
    rw [Bool.and_eq_true, bne_iff_ne, bne_iff_ne]
    refine ⟨?_, ?_⟩ <;> rintro rfl <;> exact absurd hchar (by decide)
  rw [hasKind, hlist, List.span_eq_takeWhile_dropWhile, List.takeWhile_append_of_pos hpass,
    List.dropWhile_append_of_pos hpass, List.takeWhile_cons_of_neg (by decide),
    List.dropWhile_cons_of_neg (by decide), List.append_nil]
  simpa using hne

/-! ### Counterparts that answer -/

open Dialogue

/-- A counterpart that authorizes every request and answers it with one and the same response. -/
structure Serves {σ : Type} (raw : Response)
    (counterpart : (q : Question) → σ → protocol.Answer q × σ) : Prop where
  authorize : ∀ s, ∃ value, (counterpart .authorize s).1 = .ok value
  send : ∀ q s, (counterpart (.send q) s).1 = .ok raw

/-- What such a counterpart answers in a turn. -/
def Grants (raw : Response) : Turn protocol → Prop
  | ⟨.authorize, value⟩ => ∃ v, value = .ok v
  | ⟨.send _, answer⟩ => answer = .ok raw
  | ⟨.release, _⟩ => True

theorem Serves.grants {σ : Type} {raw : Response} {counterpart : (q : Question) → σ → protocol.Answer q × σ}
    (h : Serves raw counterpart) {w : Turn protocol} {s : σ} (hw : w.answer = (counterpart w.question s).1) :
    Grants raw w := by
  obtain ⟨q, answer⟩ := w
  obtain rfl : answer = (counterpart q s).1 := hw
  cases q with
  | authorize => exact h.authorize s
  | send q => exact h.send q s
  | release => trivial

/-- With such a counterpart a response that makes sense is received. -/
theorem Heads.granted {q : Request} {turns : List (Turn protocol)} {result : Except Fault Response}
    {raw response : Response} (h : Heads q turns result) (hgrants : ∀ w ∈ turns, Grants raw w)
    (hraw : raw.decoded = .ok response) (hcheck : Client.check q.url response = .ok ()) :
    ∃ value, turns = [authorizing (.ok value), sending (Client.signed q value) (.ok raw)] ∧
    result = .ok response := by
  cases h with
  | unauthorized fault =>
    obtain ⟨v, hv⟩ := hgrants _ List.mem_cons_self
    cases hv
  | unanswered value fault => exact nomatch hgrants _ (.tail _ List.mem_cons_self)
  | @garbled value other fault hgarbled =>
    obtain rfl : other = raw := Except.ok.inj (hgrants _ (.tail _ List.mem_cons_self))
    exact nomatch hraw.symm.trans hgarbled
  | @astray value other _ fault hother hastray =>
    obtain rfl : other = raw := Except.ok.inj (hgrants _ (.tail _ List.mem_cons_self))
    obtain rfl := Except.ok.inj (hraw.symm.trans hother)
    exact nomatch hcheck.symm.trans hastray
  | @received value other _ hother _ =>
    obtain rfl : other = raw := Except.ok.inj (hgrants _ (.tail _ List.mem_cons_self))
    obtain rfl := Except.ok.inj (hraw.symm.trans hother)
    exact ⟨value, rfl, rfl⟩

end LakeStore.Http

namespace LakeStore.Remote.Transport

open Dialogue
open Http (Url Grants authorizing sending)
open Http.Client (check hasKind signed)

variable {a : Account} {t : Transport} {r : Request} {u : Url} {turns : List (Turn Http.protocol)}
  {result : Except Fault Response} {raw response : Http.Response}

/-- The URL of a call. The identifier of its exchange is no part of it. -/
def urlOf (t : Transport) (r : Request) : Except Http.UrlFault Url := do
  (← t.client.urlOf (t.draft r "")).withQuery (some (t.query r))

/-- A call with a URL that requests can go to, over a transport that is open. -/
structure Reachable (t : Transport) (r : Request) (u : Url) : Prop where
  authorizes : t.client.authorizes = true
  opened : t.client.closed = false
  url : t.urlOf r = .ok u
  kind : hasKind u.text = true

/-- A call that can be reached can be written down as a request. -/
theorem Reachable.reaches (h : Reachable t r u) (serial : Nat) : ∃ q, Reaches t r serial q ∧ q.url = u := by
  obtain ⟨v, hv, hquery⟩ := bind_eq_ok.mp h.url
  have hclient : t.client.urlOf (t.draft r (Identifier.numbered serial)) = .ok v := hv
  have hquery : ((t.draft r (Identifier.numbered serial)).query.map v.withQuery).getD (.ok v) = .ok u :=
    hquery
  have hrequest : ∃ q, t.client.request (t.draft r (Identifier.numbered serial)) = .ok q ∧ q.url = u := by
    simp only [Http.Client.request, bind_eq_ok, mapError_eq_ok]
    exact ⟨_, ⟨v, hclient, (), check_requestId t r serial, u, hquery, rfl⟩, rfl⟩
  obtain ⟨q, hq, hurl⟩ := hrequest
  exact ⟨q, ⟨hq, h.opened⟩, hurl⟩

theorem scheme_of_ofAccount (ht : ofAccount a = .ok t) :
    t.client.base.scheme = Text.lowerAscii (Url.Parts.ofText a.baseUrl).scheme := by
  rw [ofAccount, Http.Client.make] at ht
  cases hbase : Http.Client.readBase a.baseUrl with
  | error fault => rw [hbase] at ht; cases ht
  | ok base =>
    rw [hbase] at ht
    obtain rfl := Except.ok.inj ht
    exact Url.scheme_of_readBase hbase

/-- On a plain host with a scheme, every short call can be reached, wherever its path leads. -/
theorem Short.reachable (hshort : Short t r) (ha : a.Plain) (hscheme : a.scheme ≠ "")
    (ht : ofAccount a = .ok t) : Reachable t r (t.address r) := by
  obtain ⟨hground, -⟩ := grounded_of_plain ha ht
  obtain ⟨hpath, haddressed, hquery⟩ := hshort.writable
  have hbase : t.client.base.scheme = Text.lowerAscii a.scheme := by
    rw [scheme_of_ofAccount ht, ha.parts_baseUrl]
  refine ⟨hground.authorizes, hground.opened, ?_, ?_⟩
  · have hurl : t.client.urlOf (t.draft r "") = .ok _ := (urlOf_eq_ok hground).mpr ⟨hpath, rfl⟩
    exact bind_eq_ok.mpr ⟨_, hurl, (withQuery_eq_ok hground).mpr ⟨haddressed, hquery, rfl⟩⟩
  · have hne : t.client.base.scheme ≠ "" := by
      rw [hbase]
      exact Text.lowerAscii_eq_empty_iff.not.mpr hscheme
    rw [text_address hground, origin, if_neg hne, String.append_assoc, String.append_assoc]
    refine Http.Client.hasKind_of_scheme hne ?_ _
    rw [hbase, Text.lowerAscii, String.toList_ofList]
    exact List.forall_mem_map.mpr fun c hc => Url.isSchemeChar_toLower (ha.scheme.1 c hc)

/-- A call that is answered with a success to be streamed leaves its body where it is. -/
theorem Sends.granted (h : Sends t r turns result) (hr : Reachable t r u)
    (hgrants : ∀ w ∈ turns, Grants raw w) (hraw : raw.decoded = .ok response) (hleaves : Leaves r response) :
    ∃ value q x, q.url = u ∧ turns = [authorizing (.ok value), sending (signed q value) (.ok raw)] ∧
      result = .ok x ∧
      x.isSuccess = true ∧ x.headers = response.headers.flatten ∧
      x.stream = some (streamOf u.text response.body) := by
  -- every request of the call goes to the same URL, so that the response makes sense to each of them
  have hcheck {serial : Nat} {q : Http.Request} (hq : Reaches t r serial q) :
      q.url = u ∧ check q.url response = .ok () := by
    obtain ⟨q', hq', hurl⟩ := hr.reaches serial
    obtain rfl := Except.ok.inj (hq'.1.symm.trans hq.1)
    exact ⟨hurl, Http.Client.check_of_success (hurl ▸ hr.kind) hleaves.2.1 hleaves.2.2⟩
  cases h with
  | @unwritten serial _ hrequest =>
    obtain ⟨q, hq, -⟩ := hr.reaches serial
    exact nomatch hq.1.symm.trans hrequest
  | closed _ hclosed => exact nomatch hr.opened.symm.trans hclosed
  | failed hq hhead =>
    obtain ⟨value, -, hresult⟩ := hhead.granted hgrants hraw (hcheck hq).2
    cases hresult
  | @left serial q _ _ hq hhead _ =>
    obtain ⟨hurl, hsense⟩ := hcheck hq
    obtain ⟨value, hturns, hresult⟩ := hhead.granted hgrants hraw hsense
    obtain rfl := Except.ok.inj hresult
    exact ⟨value, q, _, hurl, hturns, rfl, isSuccess_iff.mpr hleaves.2, rfl, by rw [hurl]⟩
  | read hq hhead hnot =>
    obtain ⟨value, -, hresult⟩ :=
      hhead.granted (fun w hw => hgrants w (List.mem_append_left _ hw)) hraw (hcheck hq).2
    obtain rfl := Except.ok.inj hresult
    exact absurd hleaves hnot

end LakeStore.Remote.Transport

namespace LakeStore.Backend

open Dialogue
open Http (Serves Grants)
open Remote.Transport (Reachable Short Leaves Sends streamOf plainAccount plainTransport plain_plainAccount
  ofAccount_plainAccount)

variable {t : Remote.Transport} {b : Backend} {key : String} {o : GetOptions}
  {turns : List (Turn Http.protocol)} {r : Except Fault Reply}

/-- The request that opens an object. -/
def openRequest (b : Backend) (key : String) (o : GetOptions) : Remote.Request :=
  { operation := .openFile, path := b.path key, params := o.params, stream := true }

/-- A stream that gives a body as it came: nothing was read of it yet, and it is released by its first
closing. -/
structure Delivers (body : Http.Body) (s : Blob.Stream) : Prop where
  unopened : s.opened = false
  left : s.left = body.chunks.filter (· ≠ [])
  read : ∀ bytes, body.read = .ok bytes → s.read.1 = .ok bytes
  releases : ∀ actions, (s.after actions).releases = if actions.any Blob.Stream.Action.isClosing then 1 else 0

theorem delivers_streamOf (url : String) (body : Http.Body) : Delivers body (streamOf url body.sifted) where
  unopened := by cases body <;> rfl
  left := by
    cases body with
    | received bytes => rfl
    | onWire chunks ending => exact List.filter_eq_self.mpr fun _ hc => (List.mem_filter.mp hc).2
  read bytes hbytes := by
    cases body with
    | received =>
      obtain rfl := Except.ok.inj hbytes
      exact (Blob.Stream.read_of_whole rfl rfl).trans (congrArg _ (List.append_nil _))
    | onWire chunks ending =>
      cases ending with
      | none =>
        obtain rfl := Except.ok.inj hbytes
        exact (Blob.Stream.read_of_whole rfl rfl).trans (congrArg _ List.flatten_filter_ne_nil)
      | some fault => cases hbytes
  releases actions := by
    have hfresh : (streamOf url body.sifted).closed = false ∧ (streamOf url body.sifted).releases = 0 ∧
        (streamOf url body.sifted).release.isSome = true := by
      cases body <;> exact ⟨rfl, rfl, rfl⟩
    rw [Blob.Stream.releases_after hfresh.1, hfresh.2.1, hfresh.2.2, Nat.zero_add]
    simp

/-- To open an object over a transport is to send one request. -/
theorem went_carry_get :
    Went (t.carry (b.perform (.get key o))).run turns r ↔
      ∃ answer, Went (t.send (b.openRequest key o)).run turns answer ∧
        r = (Remote.settle false answer).map fun response => .opened
          { key, contentType := Entries.find? "content-type" response.headers }
          (response.stream.getD (.ofBody response.body)) := by
  rw [went_carry]
  constructor
  · rintro ⟨errands, rfl, hcarried⟩
    obtain ⟨answer, hturns, rfl⟩ := went_get.mp hcarried.performed
    obtain ⟨x, rfl, hx⟩ := List.map_eq_singleton_iff.mp hturns
    have hsent := hcarried.sent x List.mem_cons_self
    rw [hx] at hsent
    exact ⟨answer, by rwa [List.flatMap_singleton], rfl⟩
  · rintro ⟨answer, hsent, rfl⟩
    exact ⟨[⟨⟨_, answer⟩, turns⟩], (List.append_nil _).symm, List.forall_mem_singleton.mpr hsent,
      went_get.mpr ⟨answer, rfl, rfl⟩⟩

/-- Opening an object delivers the body and the fields as they were sent. Every short key of a plain host
can be reached. What can be reached is asked for once, and nothing is read of the response; the stream gives
the body however it was cut, and releases the response once; the content type is that of the last field of
the name. -/
theorem get_delivers (t : Remote.Transport) (b : Backend) (key : String) (o : GetOptions) :
    (∀ a : Account, a.Plain → a.scheme ≠ "" → Remote.Transport.ofAccount a = .ok t →
      Short t (b.openRequest key o) →
      ∃ u, Reachable t (b.openRequest key o) u) ∧
    ∀ u raw, Reachable t (b.openRequest key o) u → 200 ≤ raw.status → raw.status < 300 →
      raw.headers.has "content-encoding" = false →
      ∀ (σ : Type) (counterpart : (q : Http.Question) → σ →
        Http.protocol.Answer q × σ) (serials : Nat) (s : σ), Serves raw counterpart →
        ∃ sent stream,
          let outcome := run counterpart (t.carry (b.perform (.get key o))).run serials s
          Event.questions outcome.events = [.authorize, .send sent] ∧ sent.url = u ∧
          outcome.value = .ok (.opened ⟨key, (raw.headers.values "content-type").getLast?, false⟩ stream) ∧
          Delivers raw.body stream := by
  refine ⟨fun a ha hscheme ht hshort => ⟨_, hshort.reachable ha hscheme ht⟩, ?_⟩
  intro u raw hreach hleast hgreatest huncoded σ counterpart serials s hserves
  obtain ⟨turns, hwent, hasked, hanswers⟩ :=
    went_run counterpart (t.carry (b.perform (.get key o))).run serials s
  obtain ⟨answer, hsent, hvalue⟩ := went_carry_get.mp hwent
  have hgrants : ∀ w ∈ turns, Grants raw w := fun w hw => by
    obtain ⟨s', hanswer⟩ := hanswers w hw
    exact hserves.grants hanswer
  have hleaves : Leaves (b.openRequest key o) { raw with body := raw.body.sifted } := ⟨rfl, hleast, hgreatest⟩
  obtain ⟨value, q, x, hurl, rfl, rfl, hsuccess, hheaders, hstream⟩ :=
    (Sends.of_went hreach.authorizes hsent).granted hreach hgrants
      (Http.Response.decoded_of_uncoded huncoded) hleaves
  refine ⟨Http.Client.signed q value, streamOf u.text raw.body.sifted, hasked, hurl, ?_,
    delivers_streamOf _ _⟩
  have htype :
      Entries.find? "content-type" raw.headers.flatten = (raw.headers.values "content-type").getLast? :=
    Http.Headers.find?_flatten "content-type" raw.headers
  rw [hvalue, Remote.settle, if_pos hsuccess, Except.map, hheaders, hstream, htype, Option.getD_some]

/-- A response that gives its content type twice, and whose body comes in three chunks. -/
def twiceTyped : Http.Response where
  status := 206
  headers := [("Content-Type", "text/plain"), ("ETag", "1"), ("CONTENT-TYPE", "text/html")]
  body := .onWire [[0x61], [], [0x62, 0x63]] none

/-- A counterpart that has no other response. -/
def obliging : (q : Http.Question) → Unit → Http.protocol.Answer q × Unit
  | .authorize, _ => (.ok "token", ())
  | .send _, _ => (.ok twiceTyped, ())
  | .release, _ => ((), ())

theorem get_delivers_twiceTyped : ∃ sent stream,
    let opening := plainTransport.carry ((⟨plainAccount, 0⟩ : Backend).perform (.get "a/../k" {}))
    let outcome := run obliging opening.run 0 ()
    Event.questions outcome.events = [.authorize, .send sent] ∧
      outcome.value = .ok (.opened ⟨"a/../k", some "text/html", false⟩ stream) ∧
      stream.read.1 = .ok [0x61, 0x62, 0x63] ∧ (stream.after [.close, .read, .exit]).releases = 1 := by
  have hshort : Short plainTransport (openRequest ⟨plainAccount, 0⟩ "a/../k" {}) := by decide +kernel
  obtain ⟨hreachable, hdelivers⟩ := get_delivers plainTransport ⟨plainAccount, 0⟩ "a/../k" {}
  obtain ⟨u, hu⟩ := hreachable plainAccount plain_plainAccount (by decide) ofAccount_plainAccount hshort
  obtain ⟨sent, stream, hasked, -, hvalue, hstream⟩ :=
    hdelivers u twiceTyped hu (by decide) (by decide) (by decide)
    Unit obliging 0 () ⟨fun _ => ⟨"token", rfl⟩, fun _ _ => rfl⟩
  have htype : (twiceTyped.headers.values "content-type").getLast? = some "text/html" := by decide
  rw [htype] at hvalue
  exact ⟨sent, stream, hasked, hvalue, hstream.read _ rfl, hstream.releases _⟩

end LakeStore.Backend
