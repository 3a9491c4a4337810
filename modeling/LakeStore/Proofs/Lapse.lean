import LakeStore.Proofs.Encoding
import LakeStore.Proofs.Requests
import LakeStore.Proofs.Stream

/-!
Failures of the exchange, wherever they strike.

An exchange can fail when it is authorized, in place of an answer, in an answer that cannot be read or leads
nowhere, or in the body of an answer after any number of chunks. Over a transport each of these ends the
operation with an error that may pass. Only a body that is streamed fails later, when it is read. A body
that is not left to be streamed is released before anything else is done.
-/

namespace LakeStore.Http

open Dialogue

/-- The ways in which an answer to a request fails with a fault, unless its body is left to be streamed. -/
inductive Fails (streamed : Response → Prop) (fault : Fault) (q : Request) : Except Fault Response → Prop
  | unanswered : Fails streamed fault q (.error fault)
  | garbled {raw : Response} : raw.decoded = .error fault → Fails streamed fault q (.ok raw)
  | astray {raw response : Response} :
      raw.decoded = .ok response → Client.check q.url response = .error fault →
      Fails streamed fault q (.ok raw)
  | cutShort {raw response : Response} {chunks : List Bytes} : raw.decoded = .ok response →
      Client.check q.url response = .ok () → ¬ streamed response →
      response.body = .onWire chunks (some fault) →
      Fails streamed fault q (.ok raw)

/-- A fault strikes in a turn of a conversation. -/
def Strikes (streamed : Response → Prop) (fault : Fault) : Turn protocol → Prop
  | ⟨.authorize, value⟩ => value = .error fault
  | ⟨.send q, answer⟩ => Fails streamed fault q answer
  | ⟨.release, _⟩ => False

variable {streamed : Response → Prop} {fault : Fault} {q : Request} {turns : List (Turn protocol)}
  {w : Turn protocol} {r : Except Fault Response}

/-- A fault that strikes an answer says what the answer comes to: nothing, or a response whose body breaks
off. -/
theorem Fails.decoded {raw response : Response} (h : Fails streamed fault q (.ok raw))
    (hraw : raw.decoded = .ok response) (hcheck : Client.check q.url response = .ok ()) :
    ¬ streamed response ∧ ∃ chunks, response.body = .onWire chunks (some fault) := by
  cases h with
  | garbled hgarbled => rw [hraw] at hgarbled; cases hgarbled
  | astray hraw' hastray =>
    obtain rfl := Except.ok.inj (hraw.symm.trans hraw')
    rw [hcheck] at hastray; cases hastray
  | cutShort hraw' _ hstreamed hbody =>
    obtain rfl := Except.ok.inj (hraw.symm.trans hraw')
    exact ⟨hstreamed, _, hbody⟩

theorem Fails.garbled_inj {raw : Response} {other : Fault} (h : Fails streamed fault q (.ok raw))
    (hraw : raw.decoded = .error other) : other = fault := by
  cases h with
  | garbled hgarbled => exact Except.error.inj (hraw.symm.trans hgarbled)
  | astray hraw' _ | cutShort hraw' _ _ _ => rw [hraw] at hraw'; cases hraw'

theorem Fails.astray_inj {raw response : Response} {other : Fault} (h : Fails streamed fault q (.ok raw))
    (hraw : raw.decoded = .ok response) (hcheck : Client.check q.url response = .error other) :
    other = fault := by
  cases h with
  | garbled hgarbled => rw [hraw] at hgarbled; cases hgarbled
  | astray hraw' hastray =>
    obtain rfl := Except.ok.inj (hraw.symm.trans hraw')
    exact Except.error.inj (hcheck.symm.trans hastray)
  | cutShort hraw' hcheck' _ _ =>
    obtain rfl := Except.ok.inj (hraw.symm.trans hraw')
    rw [hcheck] at hcheck'; cases hcheck'

/-- What becomes of the head of an answer in which a fault strikes. -/
theorem Heads.struck (h : Heads q turns r) (hw : w ∈ turns) (hstrikes : Strikes streamed fault w) :
    r = .error fault ∨ ∃ response chunks, r = .ok response ∧ ¬ streamed response ∧
      response.body = .onWire chunks (some fault) := by
  cases h with
  | unauthorized other =>
    obtain rfl := List.mem_singleton.mp hw
    obtain rfl := Except.error.inj hstrikes
    exact .inl rfl
  | unanswered value other =>
    rcases List.mem_cons.mp hw with rfl | hw
    · exact nomatch hstrikes
    · obtain rfl := List.mem_singleton.mp hw
      cases hstrikes with | unanswered => exact .inl rfl
  | garbled value hraw =>
    rcases List.mem_cons.mp hw with rfl | hw
    · exact nomatch hstrikes
    · obtain rfl := List.mem_singleton.mp hw
      obtain rfl := Fails.garbled_inj hstrikes hraw
      exact .inl rfl
  | astray value hraw hcheck =>
    rcases List.mem_cons.mp hw with rfl | hw
    · exact nomatch hstrikes
    · rcases List.mem_cons.mp hw with rfl | hw
      · obtain rfl := Fails.astray_inj hstrikes hraw hcheck
        exact .inl rfl
      · obtain rfl := List.mem_singleton.mp hw
        exact hstrikes.elim
  | received value hraw hcheck =>
    rcases List.mem_cons.mp hw with rfl | hw
    · exact nomatch hstrikes
    · obtain rfl := List.mem_singleton.mp hw
      obtain ⟨hstreamed, chunks, hbody⟩ := Fails.decoded hstrikes hraw hcheck
      exact .inr ⟨_, chunks, rfl, hstreamed, hbody⟩

/-- What becomes of a response that was received: it makes sense to its request, or else its connection is
released. -/
theorem Heads.released {sent : Request} {raw response : Response} (h : Heads q turns r)
    (hsent : sending sent (.ok raw) ∈ turns) (hraw : raw.decoded = .ok response) :
    (∃ fault, Client.check sent.url response = .error fault ∧ turns.getLast? = some releasing) ∨
      sent.url = q.url ∧ r = .ok response := by
  cases h with
  | unauthorized fault => simp at hsent
  | unanswered value fault => simp at hsent
  | garbled value hgarbled =>
    simp only [List.mem_cons, sending_ne_authorizing, sending_inj, Except.ok.injEq,
      List.not_mem_nil, or_false, false_or] at hsent
    obtain ⟨rfl, rfl⟩ := hsent
    rw [hgarbled] at hraw; cases hraw
  | astray value hraw' hastray =>
    simp only [List.mem_cons, sending_ne_authorizing, sending_ne_releasing, sending_inj, Except.ok.injEq,
      List.not_mem_nil, or_false, false_or] at hsent
    obtain ⟨rfl, rfl⟩ := hsent
    obtain rfl := Except.ok.inj (hraw.symm.trans hraw')
    exact .inl ⟨_, hastray, rfl⟩
  | received value hraw' hcheck =>
    simp only [List.mem_cons, sending_ne_authorizing, sending_inj, Except.ok.injEq,
      List.not_mem_nil, or_false, false_or] at hsent
    obtain ⟨rfl, rfl⟩ := hsent
    obtain rfl := Except.ok.inj (hraw.symm.trans hraw')
    exact .inr ⟨rfl, rfl⟩

end LakeStore.Http

namespace LakeStore.Remote.Transport

open Dialogue
open Http (Strikes sending releasing)
open Http.Client (attributed failureOf)

variable {t : Transport} {r : Request} {turns : List (Turn Http.protocol)} {result : Except Fault Response}
  {w : Turn Http.protocol} {fault : Fault}

theorem attributed_of_isExchange {what : String} {q : Http.Request} (h : fault.isExchange = true) :
    attributed what q fault = failureOf what q fault := if_pos h

/-- A failure of the exchange that strikes in the course of a call is its failure. -/
theorem Sends.struck (h : Sends t r turns result) (hw : w ∈ turns) (hstrikes : Strikes (Leaves r) fault w)
    (hfault : fault.isExchange = true) :
    ∃ failure, result = .error (.request failure) ∧ failure.cause = some fault.name := by
  cases h with
  | unwritten _ => exact absurd hw List.not_mem_nil
  | closed _ _ => exact absurd hw List.not_mem_nil
  | failed hq hhead =>
    rcases hhead.struck hw hstrikes with hr | ⟨response, chunks, hr, -⟩
    · obtain rfl := Except.error.inj hr
      exact ⟨_, congrArg Except.error (attributed_of_isExchange hfault), rfl⟩
    · cases hr
  | left hq hhead hleft =>
    rcases hhead.struck hw hstrikes with hr | ⟨response, chunks, hr, hnot, -⟩
    · cases hr
    · obtain rfl := Except.ok.inj hr
      exact absurd hleft hnot
  | read hq hhead hleft =>
    rcases List.mem_append.mp hw with hw | hw
    · rcases hhead.struck hw hstrikes with hr | ⟨response, chunks, hr, -, hbody⟩
      · cases hr
      · obtain rfl := Except.ok.inj hr
        rw [hbody]
        exact ⟨_, congrArg Except.error (attributed_of_isExchange hfault), rfl⟩
    · obtain rfl := List.mem_singleton.mp hw
      exact hstrikes.elim

/-- A response whose body is not left to be streamed is released before its call ends. -/
theorem Sends.released {sent : Http.Request} {raw response : Http.Response} (h : Sends t r turns result)
    (hsent : sending sent (.ok raw) ∈ turns) (hraw : raw.decoded = .ok response)
    (hleft : ¬ Leaves r response) : turns.getLast? = some releasing := by
  cases h with
  | unwritten _ => exact absurd hsent List.not_mem_nil
  | closed _ _ => exact absurd hsent List.not_mem_nil
  | failed hq hhead =>
    rcases hhead.released hsent hraw with ⟨fault, -, hlast⟩ | ⟨-, hr⟩
    · exact hlast
    · cases hr
  | left hq hhead hleft' =>
    rcases hhead.released hsent hraw with ⟨fault, -, hlast⟩ | ⟨-, hr⟩
    · exact hlast
    · obtain rfl := Except.ok.inj hr
      exact absurd hleft' hleft
  | read hq hhead hleft => exact List.getLast?_concat

/-- A response whose body is left to be streamed is the answer to its call. -/
theorem Sends.streamed {sent : Http.Request} {raw response : Http.Response} (h : Sends t r turns result)
    (hsent : sending sent (.ok raw) ∈ turns) (hraw : raw.decoded = .ok response)
    (hcheck : Http.Client.check sent.url response = .ok ()) (hleft : Leaves r response) :
    ∃ x, result = .ok x ∧ x.isSuccess = true ∧ x.stream = some (streamOf sent.url.text response.body) := by
  -- the response makes sense, so it is the one that the call went on with
  have hreceived {q : Http.Request} {xs : List (Turn Http.protocol)} {r' : Except Fault Http.Response}
      (hhead : Http.Heads q xs r') (hsent : sending sent (.ok raw) ∈ xs) :
      sent.url = q.url ∧ r' = .ok response := by
    refine (hhead.released hsent hraw).resolve_left ?_
    rintro ⟨fault, hfault, -⟩
    rw [hcheck] at hfault; cases hfault
  cases h with
  | unwritten _ => exact absurd hsent List.not_mem_nil
  | closed _ _ => exact absurd hsent List.not_mem_nil
  | failed hq hhead => exact nomatch (hreceived hhead hsent).2
  | left hq hhead hleft' =>
    obtain ⟨hurl, hr⟩ := hreceived hhead hsent
    obtain rfl := Except.ok.inj hr
    exact ⟨_, rfl, isSuccess_iff.mpr hleft.2, by rw [hurl]⟩
  | read hq hhead hleft' =>
    rcases List.mem_append.mp hsent with hsent | hsent
    · obtain rfl := Except.ok.inj (hreceived hhead hsent).2
      exact absurd hleft hleft'
    · simp at hsent

end LakeStore.Remote.Transport

namespace LakeStore.Blob.Stream

/-- A stream that breaks off with a fault after some chunks: the chunks can be taken one by one, and whoever
asks for more than that, or for all that is left, is told of the fault. -/
def BreaksOff (fault : Fault) : List Bytes → Stream → Prop
  | [], s => ∀ a ∈ [Action.next, .iterate, .read], (s.perform a).1 = .error fault
  | chunk :: rest, s => (∀ a ∈ [Action.iterate, .read], (s.perform a).1 = .error fault) ∧
    (s.perform .next).1 = .ok (.chunk (some chunk)) ∧ BreaksOff fault rest (s.perform .next).2

/-- A stream whose source ends in a fault breaks off with it, as long as it is not closed. -/
theorem breaksOff_of_ending {s : Stream} {fault : Fault} (hending : s.ending = some fault)
    (hopen : s.closed = false) : BreaksOff fault (s.pending.filter (· ≠ [])) s := by
  generalize hpending : s.pending.filter (· ≠ []) = given
  induction given generalizing s with
  | nil =>
    have hlate : s.isLate = false := by rw [isLate, hopen, Bool.and_false, Bool.false_and]
    simp [BreaksOff, perform, read, Except.map, next_of_ending hending hlate hpending,
      chunks_of_ending hending hlate]
  | cons chunk rest ih =>
    have hlate : s.isLate = false := by rw [isLate, hopen, Bool.and_false, Bool.false_and]
    obtain ⟨more, hperform, hmore⟩ := perform_next_of_left hlate hpending
    refine ⟨?_, by rw [hperform], ?_⟩
    · simp [perform, read, Except.map, chunks_of_ending hending hlate]
    · rw [hperform]
      exact ih hending hopen hmore

end LakeStore.Blob.Stream

namespace LakeStore.Backend

open Dialogue
open Http (Strikes sending releasing)
open Remote (Request NoResponse lapse)
open Remote.Transport (Leaves Sends)

variable {t : Remote.Transport} {b : Backend} {c : Command}
  {errands : List (Errand Remote.protocol Http.protocol)} {r : Except Fault Reply}

/-- An operation over a transport: its requests, each with the conversation that its answer comes from. -/
structure Carried (t : Remote.Transport) (b : Backend) (c : Command)
    (errands : List (Errand Remote.protocol Http.protocol)) (r : Except Fault Reply) : Prop where
  sent : ∀ x ∈ errands, Went (t.send x.turn.question).run x.turns x.turn.answer
  performed : Went (b.perform c).run (errands.map Errand.turn) r

theorem went_carry {ws : List (Turn Http.protocol)} :
    Went (t.carry (b.perform c)).run ws r ↔ ∃ errands, ws = errands.flatMap Errand.turns ∧
    Carried t b c errands r :=
  went_via.trans (exists_congr fun _ => and_congr_right fun _ => ⟨fun h => ⟨h.1, h.2⟩, fun h => ⟨h.1, h.2⟩⟩)

/-- An operation of one request is carried in the conversation of that request. -/
theorem Carried.went {x : Errand Remote.protocol Http.protocol} (h : Carried t b c [x] r) :
    Went (t.carry (b.perform c)).run x.turns r :=
  went_carry.mpr ⟨[x], (List.append_nil x.turns).symm, h⟩

/-- A fault that tells of a failure that may pass, and of what it was made. -/
def MayPass (fault : Fault) : Prop :=
  ∃ e, fault = .store e ∧ e.name = "TransientError" ∧ e.retryable = true ∧ e.errno = Errno.again ∧
    e.cause.isSome = true

theorem mayPass_lapse (failure : RequestFailure) : MayPass (lapse failure) := ⟨_, rfl, rfl, rfl, rfl, rfl⟩

theorem mayPass_breakage {fault : Fault} (h : fault.isExchange = true) (url : String) :
    MayPass (Remote.Transport.breakage url fault) := by
  rw [Remote.Transport.breakage, if_pos h]; exact ⟨_, rfl, rfl, rfl, rfl, rfl⟩

/-- Opening an object is one request, and the body of its answer is streamed. -/
theorem went_get {key : String} {o : GetOptions} {turns : List (Turn Remote.protocol)} :
    Went (b.perform (.get key o)).run turns r ↔
      ∃ answer,
      turns = [⟨{ operation := .openFile, path := b.path key, params := o.params, stream := true }, answer⟩] ∧
        r = (Remote.settle false answer).map fun response => .opened
          { key, contentType := Entries.find? "content-type" response.headers }
          (response.stream.getD (.ofBody response.body)) := by
  refine went_of_silent_eq ?_
  rw [perform, run_map_eq_bind, silent_bind, get, silent_observed, Remote.silent_execute_bind]
  refine congrArg (Dialogue.ask (P := Remote.protocol) _) (funext fun answer => ?_)
  beta_reduce
  cases Remote.settle false answer <;> rfl

/-- A failure of the exchange that strikes while an operation is on ends the operation. -/
theorem Carried.struck (h : Carried t b c errands r) (ht : t.client.authorizes = true)
    {before after : List (Errand Remote.protocol Http.protocol)} {x : Errand Remote.protocol Http.protocol}
    (herrands : errands = before ++ x :: after) {w : Turn Http.protocol} {fault : Fault} (hw : w ∈ x.turns)
    (hfault : fault.isExchange = true) (hstrikes : Strikes (Leaves x.turn.question) fault w) :
    after = [] ∧ ((∃ e, r = .error e ∧ MayPass e) ∨ Unprobed c (before.map Errand.turn) r) := by
  subst herrands
  obtain ⟨failure, hanswer, -⟩ := (Sends.of_went ht (h.sent x (by simp))).struck hw hstrikes hfault
  have hperformed := h.performed
  rw [List.map_append, List.map_cons] at hperformed
  obtain ⟨hafter, hr⟩ := went_noResponse hperformed hanswer
  refine ⟨List.map_eq_nil_iff.mp hafter, hr.imp_left fun hr => ⟨_, hr, mayPass_lapse failure⟩⟩

/-- A body that breaks off while it is streamed is found to do so by whoever reads it. -/
theorem Carried.streamed (h : Carried t b c errands r) (ht : t.client.authorizes = true)
    {x : Errand Remote.protocol Http.protocol} (hx : x ∈ errands) {q : Http.Request}
    {raw response : Http.Response} {chunks : List Bytes} {fault : Fault}
    (hsent : sending q (.ok raw) ∈ x.turns) (hraw : raw.decoded = .ok response)
    (hcheck : Http.Client.check q.url response = .ok ()) (hleft : Leaves x.turn.question response)
    (hbody : response.body = .onWire chunks (some fault)) (hfault : fault.isExchange = true) :
    ∃ opened stream e, r = .ok (.opened opened stream) ∧ MayPass e ∧
      Blob.Stream.BreaksOff e (chunks.filter (· ≠ [])) stream := by
  obtain ⟨answer, hanswer, hsuccess, hstream⟩ :=
    (Sends.of_went ht (h.sent x hx)).streamed hsent hraw hcheck hleft
  have hmade := (h.performed.always (always_perform b c)).1 x.turn (List.mem_map_of_mem hx)
  obtain ⟨key, o, rfl⟩ := hmade.stream hleft.1
  obtain ⟨answer', hturns, rfl⟩ := went_get.mp h.performed
  have hturn : x.turn = ⟨_, answer'⟩ := List.mem_singleton.mp (hturns ▸ List.mem_map_of_mem hx)
  obtain rfl : answer' = .ok answer := by rw [hturn] at hanswer; exact hanswer
  have hbreaks : Blob.Stream.BreaksOff (Remote.Transport.breakage q.url.text fault) (chunks.filter (· ≠ []))
      (Remote.Transport.streamOf q.url.text (.onWire chunks (some fault))) :=
    Blob.Stream.breaksOff_of_ending (s := Remote.Transport.streamOf q.url.text (.onWire chunks (some fault)))
      rfl rfl
  refine ⟨⟨key, Entries.find? "content-type" answer.headers, false⟩, _, _, ?_,
    mayPass_breakage hfault q.url.text, hbreaks⟩
  rw [Remote.settle, if_pos hsuccess, Except.map, hstream, Option.getD_some, hbody]

/-- Over a transport, a failure of the exchange is told as one that may pass wherever it strikes, but in the
probe of a refused part; and a response whose body is not left to be streamed is released before its call
ends. -/
theorem lapses_surface (ht : t.client.authorizes = true) (ws : List (Turn Http.protocol)) :
    (Went (t.carry (b.perform c)).run ws r ↔
      ∃ errands, ws = errands.flatMap Errand.turns ∧ Carried t b c errands r) ∧
    ∀ errands, Carried t b c errands r →
      (∀ before x after w fault, errands = before ++ x :: after → w ∈ x.turns → fault.isExchange = true →
        Strikes (Leaves x.turn.question) fault w →
        after = [] ∧ ((∃ e, r = .error e ∧ MayPass e) ∨ Unprobed c (before.map Errand.turn) r)) ∧
      (∀ x ∈ errands, ∀ q raw response, sending q (.ok raw) ∈ x.turns → raw.decoded = .ok response →
        ¬ Leaves x.turn.question response → x.turns.getLast? = some releasing) ∧
      ∀ x ∈ errands, ∀ q raw response chunks fault, sending q (.ok raw) ∈ x.turns →
        raw.decoded = .ok response →
        Http.Client.check q.url response = .ok () → Leaves x.turn.question response →
        response.body = .onWire chunks (some fault) → fault.isExchange = true →
        ∃ opened stream e, r = .ok (.opened opened stream) ∧ MayPass e ∧
          Blob.Stream.BreaksOff e (chunks.filter (· ≠ [])) stream := by
  refine ⟨went_carry, fun errands h => ⟨?_, ?_, ?_⟩⟩
  · intro before x after w fault herrands hw hfault hstrikes
    exact h.struck ht herrands hw hfault hstrikes
  · intro x hx q raw response hsent hraw hleft
    exact (Sends.of_went ht (h.sent x hx)).released hsent hraw hleft
  · intro x hx q raw response chunks fault hsent hraw hcheck hleft hbody hfault
    exact h.streamed ht hx hsent hraw hcheck hleft hbody hfault

open Remote.Transport (plainAccount plainTransport plain_plainAccount ofAccount_plainAccount Short)

/-- The time to read ran out. -/
def late : Fault := .foreign { name := "ReadTimeout", text := "late", nature := .exchange }

/-- A failure whose body breaks off after a chunk. -/
def cutFailure : Http.Response where
  status := 500
  body := .onWire [[0x7B]] (some late)

/-- What is asked for an object. -/
def openCall : Request where
  operation := .openFile
  path := "up/k"
  params := [("read", "true")]
  stream := true

theorem lapses_surface_cutFailure : ∃ turns fault, Went (plainTransport.carry
    ((⟨plainAccount, 0⟩ : Backend).perform (.get "k" {}))).run turns (.error fault) ∧ MayPass fault := by
  have hground := (Remote.Transport.grounded_of_plain plain_plainAccount ofAccount_plainAccount).1
  have hshort : Short plainTransport openCall := by decide +kernel
  obtain ⟨q, hq⟩ := hshort.writable.reaches hground 0
  have hurl : q.url = plainTransport.address openCall := by
    obtain ⟨-, rfl⟩ := (Remote.Transport.request_eq_ok hground).mp hq.1
    rfl
  have hcheck : Http.Client.check q.url cutFailure = .ok () := by rw [hurl]; decide +kernel
  have hraw : cutFailure.decoded = .ok cutFailure := rfl
  have hleft : ¬ Leaves openCall cutFailure := fun h => absurd h.2.2 (by decide)
  obtain ⟨turns, answer, hsent, hw⟩ : ∃ turns answer, Went (plainTransport.send openCall).run turns answer ∧
      sending (Http.Client.signed q "token") (.ok cutFailure) ∈ turns :=
    ⟨_, _, (Sends.read hq (.received "token" hraw hcheck) hleft).went rfl, .tail _ List.mem_cons_self⟩
  have hcarried : Carried plainTransport ⟨plainAccount, 0⟩ (.get "k" {}) [⟨⟨openCall, answer⟩, turns⟩] _ :=
    ⟨List.forall_mem_singleton.mpr hsent, went_get.mpr ⟨answer, rfl, rfl⟩⟩
  have hstrikes : Strikes (Leaves openCall) late (sending (Http.Client.signed q "token") (.ok cutFailure)) :=
    .cutShort hraw hcheck hleft rfl
  obtain ⟨-, hsurface⟩ :=
    lapses_surface (t := plainTransport) (b := ⟨plainAccount, 0⟩) (c := .get "k" {}) rfl turns
  obtain ⟨-, hfailed⟩ := (hsurface _ hcarried).1 [] _ [] _ late rfl hw rfl hstrikes
  rcases hfailed with ⟨fault, hr, hpass⟩ | ⟨⟨⟩, -⟩
  exact ⟨turns, fault, hr ▸ hcarried.went, hpass⟩

end LakeStore.Backend
