import LakeStore.Proofs.Turn
import LakeStore.Remote.Transport

/-!
What one call of the remote says to the web.

A call that can be written down as a request is authorized and sent, once; then its body is read, unless the
answer is a success that is to be streamed. Whenever the body is read, and whenever the answer leads to no
place, the connection is released before the call ends. What goes wrong on the way is told as a failure of
the request.
-/

namespace LakeStore.Http

open Dialogue

namespace Client

/-- A fault as the caller is told of it. -/
def attributed (what : String) (q : Request) (fault : Fault) : Fault :=
  if fault.isExchange then failureOf what q fault else fault

/-- The request that goes out for one that was authorized. -/
def signed (q : Request) (value : String) : Request :=
  { q with headers := q.headers.replace [("Authorization", value)] }

end Client

/-- A request is authorized. -/
def authorizing (value : Except Fault String) : Turn protocol := ⟨Question.authorize, value⟩

/-- A request is sent. -/
def sending (q : Request) (answer : Except Fault Response) : Turn protocol := ⟨Question.send q, answer⟩

/-- A connection is released. -/
def releasing : Turn protocol := ⟨Question.release, ()⟩

@[simp] theorem sending_inj {q q' : Request} {answer answer' : Except Fault Response} :
    sending q answer = sending q' answer' ↔ q = q' ∧ answer = answer' := by
  constructor
  · intro h
    obtain ⟨hq, hanswer⟩ := Turn.mk.inj h
    obtain rfl := Question.send.inj hq
    exact ⟨rfl, eq_of_heq hanswer⟩
  · rintro ⟨rfl, rfl⟩; rfl

@[simp] theorem sending_ne_authorizing {q : Request} {answer : Except Fault Response}
    {value : Except Fault String} :
    sending q answer ≠ authorizing value := fun h => nomatch congrArg Turn.question h

@[simp] theorem sending_ne_releasing {q : Request} {answer : Except Fault Response} :
    sending q answer ≠ releasing :=
  fun h => nomatch congrArg Turn.question h

/-- How the head of an answer is received. -/
inductive Heads (q : Request) : List (Turn protocol) → Except Fault Response → Prop
  | unauthorized (fault : Fault) : Heads q [authorizing (.error fault)] (.error fault)
  | unanswered (value : String) (fault : Fault) :
      Heads q [authorizing (.ok value), sending (Client.signed q value) (.error fault)] (.error fault)
  | garbled (value : String) {raw : Response} {fault : Fault} : raw.decoded = .error fault →
      Heads q [authorizing (.ok value), sending (Client.signed q value) (.ok raw)] (.error fault)
  | astray (value : String) {raw response : Response} {fault : Fault} : raw.decoded = .ok response →
      Client.check q.url response = .error fault →
      Heads q [authorizing (.ok value), sending (Client.signed q value) (.ok raw), releasing] (.error fault)
  | received (value : String) {raw response : Response} : raw.decoded = .ok response →
      Client.check q.url response = .ok () →
      Heads q [authorizing (.ok value), sending (Client.signed q value) (.ok raw)] (.ok response)

section Transmit

variable {α : Type} {c : Client} {q : Request} {turns : List (Turn protocol)}

theorem went_attributing {what : String} {call : Call α} {r : Except Fault α} :
    Went (Client.attributing what q call).run turns r ↔
      ∃ r', Went call.run turns r' ∧ r = r'.mapError (Client.attributed what q) := by
  have hrun : (Client.attributing what q call).run =
      call.run >>= fun r => .done (r.mapError (Client.attributed what q)) := by
    refine congrArg (call.run >>= ·) (funext fun r => ?_)
    cases r <;> rfl
  rw [hrun, went_bind]
  constructor
  · rintro ⟨r', xs, ys, rfl, hxs, hys⟩
    obtain ⟨rfl, rfl⟩ := went_done.mp hys
    exact ⟨r', by rwa [List.append_nil], rfl⟩
  · rintro ⟨r', h, rfl⟩
    exact ⟨r', turns, [], (List.append_nil _).symm, h, went_done.mpr ⟨rfl, rfl⟩⟩

theorem went_authorize {r : Except Fault String} : Went Call.authorize.run turns r ↔
    turns = [authorizing r] :=
  went_question

theorem went_send {r : Except Fault Response} : Went (Call.send q).run turns r ↔ turns = [sending q r] :=
  went_question

theorem went_release {r : Except Fault Unit} : Went Call.release.run turns r ↔
    turns = [releasing] ∧ r = .ok () := by
  constructor
  · intro h
    obtain ⟨answer, rest, rfl, hdone⟩ := went_ask.mp h
    obtain ⟨rfl, rfl⟩ := went_done.mp hdone
    exact ⟨rfl, rfl⟩
  · rintro ⟨rfl, rfl⟩
    exact went_ask.mpr ⟨(), [], rfl, went_done.mpr ⟨rfl, rfl⟩⟩

/-- To read a body is to release its connection, too. -/
theorem went_drain {body : Body} {r : Except Fault Bytes} :
    Went (Call.drain body).run turns r ↔ turns = [releasing] ∧ r = body.read := by
  rw [Call.drain, went_run_bind]
  constructor
  · rintro (⟨a, xs, ys, rfl, hrelease, hread⟩ | ⟨e, hrelease, -⟩)
    · obtain ⟨rfl, -⟩ := went_release.mp hrelease
      obtain ⟨rfl, rfl⟩ := went_run_lift.mp hread
      exact ⟨rfl, rfl⟩
    · exact nomatch (went_release.mp hrelease).2
  · rintro ⟨rfl, rfl⟩
    exact .inl ⟨(), [releasing], [], rfl, went_release.mpr ⟨rfl, rfl⟩, went_run_lift.mpr ⟨rfl, rfl⟩⟩

theorem went_authorized {r : Except Fault Request} (hc : c.authorizes = true) :
    Went (c.authorized q).run turns r ↔ ∃ value, turns = [authorizing value] ∧
    r = value.map (Client.signed q) := by
  rw [Client.authorized, if_pos hc, went_run_bind]
  constructor
  · rintro (⟨value, xs, ys, rfl, hvalue, hsigned⟩ | ⟨e, hvalue, rfl⟩)
    · obtain rfl := went_authorize.mp hvalue
      obtain ⟨rfl, rfl⟩ := went_run_pure.mp hsigned
      exact ⟨.ok value, rfl, rfl⟩
    · exact ⟨.error e, went_authorize.mp hvalue, rfl⟩
  · rintro ⟨e | value, rfl, rfl⟩
    · exact .inr ⟨e, went_authorize.mpr rfl, rfl⟩
    · exact .inl ⟨value, [authorizing (.ok value)], [], rfl, went_authorize.mpr rfl,
        went_run_pure.mpr ⟨rfl, rfl⟩⟩

/-- How a request is sent and its answer received: the body is left on the wire only if it is to be
streamed. -/
inductive Transmits (q : Request) (stream : Bool) : List (Turn protocol) → Except Fault Response → Prop
  | failed {turns : List (Turn protocol)} {fault : Fault} : Heads q turns (.error fault) →
      Transmits q stream turns (.error fault)
  | left {turns : List (Turn protocol)} {response : Response} : Heads q turns (.ok response) → stream = true →
      Transmits q stream turns (.ok response)
  | read {turns : List (Turn protocol)} {response : Response} :
      Heads q turns (.ok response) → stream = false →
      Transmits q stream (turns ++ [releasing])
        (response.body.read.map fun bytes => { response with body := .received bytes })

/-- A response that makes sense to a request, or else the fault for which its connection is released. -/
def Client.sensible (q : Request) (response : Response) : Call Response :=
  match Client.check q.url response with
  | .error fault => do
    Call.release
    throw fault
  | .ok _ => return response

/-- The head of the answer to a request. -/
def Client.head (c : Client) (q : Request) : Call Response := do
  Client.sensible q (← liftM (← Call.send (← c.authorized q)).decoded)

theorem transmit_eq (stream : Bool) :
    c.transmit q stream = c.head q >>= fun response =>
      if stream then return response
      else (fun bytes => { response with body := .received bytes }) <$> Call.drain response.body := by
  simp only [Client.transmit, Client.head, bind_assoc, map_eq_pure_bind]
  refine congrArg _ (funext fun q' =>
    congrArg _ (funext fun answer => congrArg _ (funext fun response => ?_)))
  rw [Client.sensible]
  cases Client.check q.url response with
  | error fault => rw [bind_assoc]; rfl
  | ok _ => rw [pure_bind]

theorem went_sensible {response : Response} {r : Except Fault Response} :
    Went (Client.sensible q response).run turns r ↔
      (∃ fault, Client.check q.url response = .error fault ∧ turns = [releasing] ∧ r = .error fault) ∨
        Client.check q.url response = .ok () ∧ turns = [] ∧ r = .ok response := by
  rw [Client.sensible]
  cases hcheck : Client.check q.url response with
  | ok _ =>
    refine went_run_pure.trans ⟨fun h => .inr ⟨rfl, h⟩, ?_⟩
    rintro (⟨fault, hfault, -⟩ | ⟨-, h⟩)
    · exact nomatch hfault
    · exact h
  | error fault =>
    refine went_run_bind.trans ⟨?_, ?_⟩
    · rintro (⟨a, xs, ys, rfl, hrelease, hthrow⟩ | ⟨e, hrelease, -⟩)
      · obtain ⟨rfl, -⟩ := went_release.mp hrelease
        obtain ⟨rfl, rfl⟩ := went_run_throw.mp hthrow
        exact .inl ⟨fault, rfl, rfl, rfl⟩
      · exact nomatch (went_release.mp hrelease).2
    · rintro (⟨e, hfault, rfl, rfl⟩ | ⟨hok, -⟩)
      · obtain rfl := Except.error.inj hfault
        exact .inl ⟨(), [releasing], [], rfl, went_release.mpr ⟨rfl, rfl⟩, went_run_throw.mpr ⟨rfl, rfl⟩⟩
      · exact nomatch hok

theorem went_head {r : Except Fault Response} (hc : c.authorizes = true) :
    Went (c.head q).run turns r ↔ Heads q turns r := by
  simp only [Client.head, went_run_bind, went_authorized hc, went_send, went_run_lift, went_sensible]
  constructor
  · rintro (⟨q', _, _, rfl, ⟨value, rfl, hvalue⟩, hrest⟩ | ⟨fault, ⟨value, rfl, hvalue⟩, rfl⟩)
    · obtain ⟨value, rfl⟩ : ∃ v, value = .ok v := by cases value <;> first | exact ⟨_, rfl⟩ | cases hvalue
      obtain rfl := Except.ok.inj hvalue
      rcases hrest with ⟨raw, _, _, rfl, rfl, hrest⟩ | ⟨fault, rfl, rfl⟩
      · rcases hrest with ⟨response, _, _, rfl, ⟨rfl, hraw⟩, hsensible⟩ | ⟨fault, ⟨rfl, hraw⟩, rfl⟩
        · rcases hsensible with ⟨fault, hcheck, rfl, rfl⟩ | ⟨hcheck, rfl, rfl⟩
          · exact .astray value hraw.symm hcheck
          · exact .received value hraw.symm hcheck
        · exact .garbled value hraw.symm
      · exact .unanswered value fault
    · obtain rfl : value = .error fault := by cases value <;> cases hvalue; rfl
      exact .unauthorized fault
  · rintro (⟨fault⟩ | ⟨value, fault⟩ | ⟨value, hraw⟩ | ⟨value, hraw, hcheck⟩ | ⟨value, hraw, hcheck⟩)
    · exact .inr ⟨fault, ⟨.error fault, rfl, rfl⟩, rfl⟩
    · exact .inl ⟨_, [_], [_], rfl, ⟨.ok value, rfl, rfl⟩, .inr ⟨fault, rfl, rfl⟩⟩
    · exact .inl ⟨_, [_], [_], rfl, ⟨.ok value, rfl, rfl⟩,
        .inl ⟨_, [_], [], rfl, rfl, .inr ⟨_, ⟨rfl, hraw.symm⟩, rfl⟩⟩⟩
    · exact .inl ⟨_, [_], [_, _], rfl, ⟨.ok value, rfl, rfl⟩, .inl ⟨_, [_], [_], rfl, rfl,
        .inl ⟨_, [], [_], rfl, ⟨rfl, hraw.symm⟩, .inl ⟨_, hcheck, rfl, rfl⟩⟩⟩⟩
    · exact .inl ⟨_, [_], [_], rfl, ⟨.ok value, rfl, rfl⟩, .inl ⟨_, [_], [], rfl, rfl,
        .inl ⟨_, [], [], rfl, ⟨rfl, hraw.symm⟩, .inr ⟨hcheck, rfl, rfl⟩⟩⟩⟩

theorem went_transmit {stream : Bool} {r : Except Fault Response} (hc : c.authorizes = true) :
    Went (c.transmit q stream).run turns r ↔ Transmits q stream turns r := by
  simp only [transmit_eq, went_run_bind, went_head hc]
  constructor
  · rintro (⟨response, xs, ys, rfl, hhead, hrest⟩ | ⟨fault, hhead, rfl⟩)
    · cases stream with
      | true =>
        obtain ⟨rfl, rfl⟩ := went_run_pure.mp hrest
        rw [List.append_nil]
        exact .left hhead rfl
      | false =>
        obtain ⟨r', hdrain, rfl⟩ := runs_run_map.mp hrest
        obtain ⟨rfl, rfl⟩ := went_drain.mp hdrain
        exact .read hhead rfl
    · exact .failed hhead
  · rintro (hhead | ⟨hhead, rfl⟩ | ⟨hhead, rfl⟩)
    · exact .inr ⟨_, hhead, rfl⟩
    · exact .inl ⟨_, turns, [], (List.append_nil _).symm, hhead, went_run_pure.mpr ⟨rfl, rfl⟩⟩
    · exact .inl ⟨_, _, [releasing], rfl, hhead, runs_run_map.mpr ⟨_, went_drain.mpr ⟨rfl, rfl⟩, rfl⟩⟩

theorem send_of_unwritten {d : Draft} {fault : Fault} (hrequest : c.request d = .error fault) :
    c.send d = throw fault := by
  rw [Client.send, hrequest]

theorem send_of_closed {d : Draft} (hrequest : c.request d = .ok q) (hclosed : c.closed = true) :
    c.send d = throw .closedClient := by
  simp only [Client.send, hrequest, hclosed]
  exact if_pos trivial

/-- What can be written down is sent, and what goes wrong is told as a failure of the request. -/
theorem went_send_draft {d : Draft} {r : Except Fault (Request × Response)} (hc : c.authorizes = true)
    (hrequest : c.request d = .ok q) (hopen : c.closed = false) :
    Went (c.send d).run turns r ↔
      ∃ r', Transmits q d.stream turns r' ∧
      r = (r'.map (Prod.mk q)).mapError (Client.attributed "HTTP request" q) := by
  have hsend : c.send d = Client.attributing "HTTP request" q (Prod.mk q <$> c.transmit q d.stream) := by
    simp only [Client.send, hrequest, hopen, map_eq_pure_bind]
    exact if_neg Bool.false_ne_true
  rw [hsend, went_attributing]
  constructor
  · rintro ⟨_, h, rfl⟩
    obtain ⟨r', htransmit, rfl⟩ := runs_run_map.mp h
    exact ⟨r', (went_transmit hc).mp htransmit, rfl⟩
  · rintro ⟨r', htransmit, rfl⟩
    exact ⟨_, runs_run_map.mpr ⟨r', (went_transmit hc).mpr htransmit, rfl⟩, rfl⟩

end Transmit

end LakeStore.Http

namespace LakeStore.Remote.Transport

open Dialogue
open Http (Transmits releasing)
open Http.Client (attributed)

/-- A call that can be written down as a request, while the transport is open. -/
def Reaches (t : Transport) (r : Request) (serial : Nat) (q : Http.Request) : Prop :=
  t.client.request (t.draft r (Identifier.numbered serial)) = .ok q ∧ t.client.closed = false

/-- Whether a body is left to be streamed. -/
def Leaves (r : Request) (response : Http.Response) : Prop :=
  r.stream = true ∧ 200 ≤ response.status ∧ response.status < 300

/-- How the body of an answer is called when it breaks off. -/
def reading (r : Request) : String := if r.stream then "HTTP body read" else "HTTP request"

/-- How a call of the remote is answered. -/
inductive Sends (t : Transport) (r : Request) : List (Turn Http.protocol) → Except Fault Response → Prop
  | unwritten {serial : Nat} {fault : Fault} :
      t.client.request (t.draft r (Identifier.numbered serial)) = .error fault → Sends t r [] (.error fault)
  | closed {serial : Nat} {q : Http.Request} :
      t.client.request (t.draft r (Identifier.numbered serial)) = .ok q → t.client.closed = true →
      Sends t r [] (.error .closedClient)
  | failed {serial : Nat} {q : Http.Request} {turns : List (Turn Http.protocol)} {fault : Fault} :
      Reaches t r serial q → Http.Heads q turns (.error fault) →
      Sends t r turns (.error (attributed "HTTP request" q fault))
  | left {serial : Nat} {q : Http.Request} {turns : List (Turn Http.protocol)} {response : Http.Response} :
      Reaches t r serial q → Http.Heads q turns (.ok response) → Leaves r response →
      Sends t r turns (.ok { answer r (Identifier.numbered serial) q response with
        stream := some (streamOf q.url.text response.body) })
  | read {serial : Nat} {q : Http.Request} {turns : List (Turn Http.protocol)} {response : Http.Response} :
      Reaches t r serial q → Http.Heads q turns (.ok response) → ¬ Leaves r response →
      Sends t r (turns ++ [releasing])
        ((response.body.read.mapError (attributed (reading r) q)).map fun bytes =>
        { answer r (Identifier.numbered serial) q response with body := bytes })

variable {t : Transport} {r : Request} {turns : List (Turn Http.protocol)} {result : Except Fault Response}

theorem isSuccess_iff {x : Response} : x.isSuccess = true ↔ 200 ≤ x.status ∧ x.status < 300 := by
  rw [Response.isSuccess, Bool.and_eq_true, decide_eq_true_iff, decide_eq_true_iff]

/-- The answer to a call, without its body, says whether the body is left to be streamed. -/
theorem leaves_iff {id : String} {q : Http.Request} {response : Http.Response} :
    Leaves r response ↔ (r.stream && (answer r id q response).isSuccess) = true := by
  rw [Bool.and_eq_true, isSuccess_iff]; rfl

section WithBody

variable {id : String} {q : Http.Request} {response : Http.Response} {body : Http.Body}

theorem went_withBody_of_leaves (h : Leaves r response) :
    Went (withBody r q body (answer r id q response)).run turns result ↔
      turns = [] ∧
      result = .ok { answer r id q response with stream := some (streamOf q.url.text body) } := by
  rw [withBody, if_pos (leaves_iff.mp h)]; exact went_run_pure

theorem went_withBody_of_stream (h : ¬ Leaves r response) (hstream : r.stream = true) :
    Went (withBody r q body (answer r id q response)).run turns result ↔
      turns = [releasing] ∧ result = (body.read.mapError (attributed "HTTP body read" q)).map fun bytes =>
        { answer r id q response with body := bytes } := by
  rw [withBody, if_neg (leaves_iff.not.mp h), if_pos hstream, ← map_eq_pure_bind]
  refine runs_run_map.trans ⟨?_, ?_⟩
  · rintro ⟨_, h, rfl⟩
    obtain ⟨_, hdrain, rfl⟩ := Http.went_attributing.mp h
    obtain ⟨rfl, rfl⟩ := Http.went_drain.mp hdrain
    exact ⟨rfl, rfl⟩
  · rintro ⟨rfl, rfl⟩
    exact ⟨_, Http.went_attributing.mpr ⟨_, Http.went_drain.mpr ⟨rfl, rfl⟩, rfl⟩, rfl⟩

theorem went_withBody_of_not_stream (hstream : r.stream = false) :
    Went (withBody r q body (answer r id q response)).run turns result ↔
      turns = [] ∧ result = body.read.map fun bytes => { answer r id q response with body := bytes } := by
  rw [withBody, hstream, if_neg (by simp), if_neg Bool.false_ne_true, ← map_eq_pure_bind]
  refine runs_run_map.trans ⟨?_, ?_⟩
  · rintro ⟨_, h, rfl⟩
    obtain ⟨rfl, rfl⟩ := went_run_lift.mp h
    exact ⟨rfl, rfl⟩
  · rintro ⟨rfl, rfl⟩
    exact ⟨_, went_run_lift.mpr ⟨rfl, rfl⟩, rfl⟩

end WithBody

/-- What a call comes to once it has its identifier: it is sent, and the body of the answer is read. -/
def exchange (t : Transport) (r : Request) (id : String) : Http.Call Response := do
  let (sent, response) ← t.client.send (t.draft r id)
  let answer := answer r id sent response
  ExceptT.lift (Dialogue.log (responseNote answer))
  withBody r sent response.body answer

theorem send_eq (t : Transport) (r : Request) :
    t.send r = ExceptT.lift Dialogue.serial >>= fun serial =>
      ExceptT.lift (Dialogue.log (callNote r (Identifier.numbered serial))) >>= fun _ =>
        t.exchange r (Identifier.numbered serial) := by
  unfold send exchange; rfl

theorem went_send_iff_exchange :
    Went (t.send r).run turns result ↔ ∃ serial,
    Went (t.exchange r (Identifier.numbered serial)).run turns result := by
  rw [send_eq, went_run_bind]
  constructor
  · rintro (⟨serial, _, ys, rfl, hserial, h⟩ | ⟨fault, hserial, -⟩)
    · obtain ⟨rfl, -⟩ := went_run_serial.mp hserial
      rcases went_run_bind.mp h with ⟨_, _, zs, rfl, hlog, hrest⟩ | ⟨fault, hlog, -⟩
      · obtain ⟨rfl, -⟩ := went_run_log.mp hlog
        exact ⟨serial, hrest⟩
      · exact nomatch (went_run_log.mp hlog).2
    · obtain ⟨-, n, hn⟩ := went_run_serial.mp hserial
      exact nomatch hn
  · rintro ⟨serial, h⟩
    refine .inl ⟨serial, [], turns, rfl, went_run_serial.mpr ⟨rfl, serial, rfl⟩, went_run_bind.mpr ?_⟩
    exact .inl ⟨(), [], turns, rfl, went_run_log.mpr ⟨rfl, rfl⟩, h⟩

theorem went_exchange {id : String} :
    Went (t.exchange r id).run turns result ↔
      (∃ q response xs ys, turns = xs ++ ys ∧ Went (t.client.send (t.draft r id)).run xs (.ok (q, response)) ∧
        Went (withBody r q response.body (answer r id q response)).run ys result) ∨
      ∃ fault, Went (t.client.send (t.draft r id)).run turns (.error fault) ∧ result = .error fault := by
  rw [exchange, went_run_bind]
  refine or_congr_left ⟨?_, ?_⟩
  · rintro ⟨⟨q, response⟩, xs, ys, rfl, hsent, h⟩
    rcases went_run_bind.mp h with ⟨_, _, zs, rfl, hlog, hbody⟩ | ⟨fault, hlog, -⟩
    · obtain ⟨rfl, -⟩ := went_run_log.mp hlog
      exact ⟨q, response, xs, zs, rfl, hsent, hbody⟩
    · exact nomatch (went_run_log.mp hlog).2
  · rintro ⟨q, response, xs, ys, rfl, hsent, hbody⟩
    refine ⟨(q, response), xs, ys, rfl, hsent, went_run_bind.mpr (.inl ⟨(), [], ys, rfl, ?_, hbody⟩)⟩
    exact went_run_log.mpr ⟨rfl, rfl⟩

/-- An answer that is streamed, or that is read to its end. -/
theorem sends_of_received {serial : Nat} {q : Http.Request} {xs ys : List (Turn Http.protocol)}
    {response : Http.Response} (hq : Reaches t r serial q) (hsent : Transmits q r.stream xs (.ok response))
    (hbody : Went (withBody r q response.body (answer r (Identifier.numbered serial) q response)).run
      ys result) :
    Sends t r (xs ++ ys) result := by
  generalize hr : Except.ok response = r' at hsent
  cases hsent with
  | failed hhead => cases hr
  | left hhead hstream =>
    obtain rfl := Except.ok.inj hr
    by_cases hleft : Leaves r response
    · obtain ⟨rfl, rfl⟩ := (went_withBody_of_leaves hleft).mp hbody
      rw [List.append_nil]
      exact .left hq hhead hleft
    · obtain ⟨rfl, rfl⟩ := (went_withBody_of_stream hleft hstream).mp hbody
      have hread := Sends.read hq hhead hleft
      rwa [reading, if_pos hstream] at hread
  | @read turns raw hhead hstream =>
    have hleft : ¬ Leaves r raw := fun h => Bool.false_ne_true (hstream.symm.trans h.1)
    have hread := Sends.read hq hhead hleft
    cases hbytes : raw.body.read with
    | error fault => rw [hbytes] at hr; cases hr
    | ok bytes =>
      rw [hbytes] at hr hread
      obtain rfl := Except.ok.inj hr
      obtain ⟨rfl, rfl⟩ := (went_withBody_of_not_stream hstream).mp hbody
      rwa [List.append_nil]

/-- A request that fails before its answer is there, or while its answer is read at once. -/
theorem sends_of_failed {serial : Nat} {q : Http.Request} {fault : Fault} (hq : Reaches t r serial q)
    (hsent : Transmits q r.stream turns (.error fault)) :
    Sends t r turns (.error (attributed "HTTP request" q fault)) := by
  generalize hr : Except.error fault = r' at hsent
  cases hsent with
  | failed hhead =>
    obtain rfl := Except.error.inj hr
    exact .failed hq hhead
  | left hhead hstream => cases hr
  | @read turns raw hhead hstream =>
    have hleft : ¬ Leaves r raw := fun h => Bool.false_ne_true (hstream.symm.trans h.1)
    have hread := Sends.read hq hhead hleft
    rw [reading, if_neg (by rw [hstream]; exact Bool.false_ne_true)] at hread
    cases hbytes : raw.body.read with
    | ok bytes => rw [hbytes] at hr; cases hr
    | error broken =>
      rw [hbytes] at hr hread
      obtain rfl := Except.error.inj hr
      exact hread

/-- A call whose request cannot be sent says nothing. -/
theorem went_exchange_of_throw {id : String} {fault : Fault}
    (h : t.client.send (t.draft r id) = throw fault) :
    Went (t.exchange r id).run turns result ↔ turns = [] ∧ result = .error fault := by
  simp only [went_exchange, h, went_run_throw]
  constructor
  · rintro (⟨_, _, _, _, _, ⟨-, hr⟩, -⟩ | ⟨_, ⟨rfl, hr⟩, rfl⟩)
    · exact nomatch hr
    · exact ⟨rfl, congrArg Except.error (Except.error.inj hr)⟩
  · rintro ⟨rfl, rfl⟩
    exact .inr ⟨fault, ⟨rfl, rfl⟩, rfl⟩

theorem Sends.of_went (ht : t.client.authorizes = true) (h : Went (t.send r).run turns result) :
    Sends t r turns result := by
  obtain ⟨serial, h⟩ := went_send_iff_exchange.mp h
  cases hrequest : t.client.request (t.draft r (Identifier.numbered serial)) with
  | error fault =>
    obtain ⟨rfl, rfl⟩ := (went_exchange_of_throw (Http.send_of_unwritten hrequest)).mp h
    exact .unwritten hrequest
  | ok q =>
    cases hclosed : t.client.closed with
    | true =>
      obtain ⟨rfl, rfl⟩ := (went_exchange_of_throw (Http.send_of_closed hrequest hclosed)).mp h
      exact .closed hrequest hclosed
    | false =>
      simp only [went_exchange, Http.went_send_draft ht hrequest hclosed] at h
      rcases h with ⟨q', response, xs, ys, rfl, ⟨r', hsent, hr⟩, hbody⟩ | ⟨fault, ⟨r', hsent, hr⟩, rfl⟩
      · cases r' with
        | error fault => cases hr
        | ok response' => cases hr; exact sends_of_received ⟨hrequest, hclosed⟩ hsent hbody
      · cases r' with
        | error fault => cases hr; exact sends_of_failed ⟨hrequest, hclosed⟩ hsent
        | ok response' => cases hr

theorem Sends.went (ht : t.client.authorizes = true) (h : Sends t r turns result) :
    Went (t.send r).run turns result := by
  rw [went_send_iff_exchange]
  have hsend {serial : Nat} {q : Http.Request} (hq : Reaches t r serial q) {xs : List (Turn Http.protocol)}
      {r' : Except Fault Http.Response} (hsent : Transmits q r.stream xs r') :
      Went (t.client.send (t.draft r (Identifier.numbered serial))).run xs
        ((r'.map (Prod.mk q)).mapError (attributed "HTTP request" q)) :=
    (Http.went_send_draft ht hq.1 hq.2).mpr ⟨r', hsent, rfl⟩
  cases h with
  | @unwritten serial _ hrequest =>
    exact ⟨serial, (went_exchange_of_throw (Http.send_of_unwritten hrequest)).mpr ⟨rfl, rfl⟩⟩
  | @closed serial _ hrequest hclosed =>
    exact ⟨serial, (went_exchange_of_throw (Http.send_of_closed hrequest hclosed)).mpr ⟨rfl, rfl⟩⟩
  | @failed serial _ _ fault hq hhead =>
    exact ⟨serial, went_exchange.mpr (.inr ⟨_, hsend hq (.failed hhead), rfl⟩)⟩
  | @left serial q _ response hq hhead hleft =>
    refine ⟨serial, went_exchange.mpr (.inl ⟨q, response, turns, [], (List.append_nil _).symm, ?_, ?_⟩)⟩
    · exact hsend hq (.left hhead hleft.1)
    · exact (went_withBody_of_leaves hleft).mpr ⟨rfl, rfl⟩
  | @read serial q xs response hq hhead hleft =>
    refine ⟨serial, went_exchange.mpr ?_⟩
    cases hstream : r.stream with
    | true =>
      refine .inl ⟨q, response, xs, [releasing], rfl, hsend hq (.left hhead hstream), ?_⟩
      rw [went_withBody_of_stream hleft hstream, reading, if_pos hstream]
      exact ⟨rfl, rfl⟩
    | false =>
      have hread := hsend hq (.read hhead hstream)
      rw [reading, if_neg (by rw [hstream]; exact Bool.false_ne_true)]
      cases hbytes : response.body.read with
      | error fault =>
        rw [hbytes] at hread
        exact .inr ⟨_, hread, rfl⟩
      | ok bytes =>
        rw [hbytes] at hread
        refine .inl ⟨q, _, xs ++ [releasing], [], (List.append_nil _).symm, hread, ?_⟩
        exact (went_withBody_of_not_stream hstream).mpr ⟨rfl, rfl⟩

theorem went_send (ht : t.client.authorizes = true) : Went (t.send r).run turns result ↔
    Sends t r turns result :=
  ⟨Sends.of_went ht, Sends.went ht⟩

end LakeStore.Remote.Transport
