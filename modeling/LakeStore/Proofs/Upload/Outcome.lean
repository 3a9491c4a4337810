import LakeStore.Proofs.Upload.Parts

/-!
What becomes of a part, by the replies to its append and to the probe behind it.

A part that is run against any two replies sends its append, and the probe exactly if the append is refused
for its offset. The second reply decides only whether such a part returns after all: the error that a part
ends with is told by the reply to its append alone. A lost lease is one of these errors. It says that the
part is not to be repeated if the remote describes it; a failure that nobody can read is one that may pass,
whatever its status.
-/

namespace LakeStore.Dialogue

variable {P : Protocol} {α σ : Type} {counterpart : (q : P.Question) → σ → P.Answer q × σ}

/-- What the two sides of a conversation see of it: its value, its questions, and how the counterpart is
left. -/
def Outcome.seen (o : Outcome P σ α) : α × List P.Question × σ := (o.value, Event.questions o.events, o.state)

@[simp] theorem seen_ask (q : P.Question) (next : P.Answer q → Dialogue P α) (serials : Nat) (s : σ) :
    (run counterpart (.ask q next) serials s).seen =
      let rest := (run counterpart (next (counterpart q s).1) serials (counterpart q s).2).seen
      (rest.1, q :: rest.2.1, rest.2.2) := rfl

/-- Neither side sees the log. -/
theorem seen_silent (d : Dialogue P α) (serials : Nat) (s : σ) :
    (run counterpart d.silent serials s).seen = (run counterpart d serials s).seen := by
  induction d generalizing serials s with
  | done a => rfl
  | ask q next ih => rw [silent_ask, seen_ask, seen_ask, ih]
  | note n next ih => exact ih serials s
  | draw next ih => exact ih (serials + 1) (serials + 1) s

end LakeStore.Dialogue

namespace LakeStore.Upload

open Dialogue
open Remote (Request Response Granted Payload.decode? Payload.description heard settle)
open Remote.Classification (bodyError described ofFault statusError)

variable {u : Upload} {body : Blob.Content} {size : Int} {serials : Nat}
  {first second : Except RequestFailure Response}

/-- The counterpart that gives one reply to the first request and another one to all that follow. -/
def replying (first second : Except RequestFailure Response) (_ : Request) (n : Nat) :
    Except Fault Response × Nat :=
  (heard (if n = 0 then first else second), n + 1)

/-- A part that is run against two replies. -/
def tried (u : Upload) (body : Blob.Content) (size : Int) (serials : Nat)
    (first second : Except RequestFailure Response) : Outcome Remote.protocol Nat (Except Fault Unit) :=
  run (P := Remote.protocol) (replying first second) (Backend.addPart (.upload u) body size).2.run serials 0

/-- The error of a part that fails, as the reply to its append tells it. -/
def rejection (u : Upload) : Except RequestFailure Response → StoreError
  | .error failure => ofFault (.request failure)
  | .ok x =>
    match Payload.decode? Payload.description x.body with
    | some d =>
      if x.status = 404 then
        .final .invalidArgument
          ("append rejected for " ++ u.key ++ ": " ++ (StoreError.remote (described x.correlation d)).text)
          (.text u.key)
      else statusError x.correlation
    | none =>
      .temporary .transient ("cannot parse error body for HTTP " ++ toString x.status) .null
        (some .undecodable)

theorem unprobed_of_granted (h : Granted (fun _ => True) first) :
    u.unprobed (settle true (heard first)) = .ok () := by
  obtain ⟨x, rfl, hx, -⟩ := h
  rw [Remote.settle_heard_eq_ok.mpr ⟨rfl, hx⟩, unprobed]

/-- A part that is not asked after ends with its rejection, unless its append succeeds. -/
theorem unprobed_of_not_granted (h : ¬ Granted (fun _ => True) first) :
    u.unprobed (settle true (heard first)) = .error (.store (u.rejection first)) := by
  rcases first with failure | x
  · rfl
  have hx : x.isSuccess = false := by
    rw [← Bool.not_eq_true]
    exact fun hsuccess => h ⟨x, rfl, hsuccess, trivial⟩
  have hsettle : settle true (heard (.ok x)) = .error (.store (bodyError x)) := by
    rw [heard, Except.mapError, settle, if_neg (by rw [hx]; decide), if_pos rfl]
  rw [hsettle, bodyError, rejection]
  cases hd : Payload.decode? Payload.description x.body with
  | none => rfl
  | some d =>
    show Except.error (if x.status = 404 then _ else _) =
      Except.error (Fault.store (if x.status = 404 then _ else _))
    split <;> rfl

/-- What a part asks and how it ends, as both sides see it. -/
theorem tried_eq_of_seen {q : List Request} {r : Except Fault Unit} {n : Nat}
    (h : (tried u body size serials first second).seen = (r, q, n)) :
    Event.questions (tried u body size serials first second).events = q ∧
      (tried u body size serials first second).value = r :=
  ⟨congrArg (fun p => p.2.1) h, congrArg Prod.fst h⟩

section Replies

variable (u : Upload) (body : Blob.Content) (size : Int) (serials : Nat)
  (second : Except RequestFailure Response)

/-- A part that is not refused for its offset is settled by one reply. -/
theorem tried_of_not_refused (h : ¬ RefusedForOffset first) :
    Event.questions (tried u body size serials first second).events = [u.partRequest body] ∧
      (tried u body size serials first second).value = u.unprobed (settle true (heard first)) := by
  have hplain : ∀ f, ¬ RefusesOffset (heard first) f := fun f hf => h (refusesOffset_heard_iff.mp ⟨f, hf⟩)
  refine tried_eq_of_seen (n := 1) ?_
  rw [tried, ← seen_silent, silent_addPart, seen_ask, replying, if_pos rfl,
    followed_of_not_refusesOffset hplain]
  rfl

/-- A part that is refused for its offset is asked after. It returns if the probe succeeds, and if not it
ends as its append alone would. -/
theorem tried_of_refused (h : RefusedForOffset first) :
    Event.questions (tried u body size serials first second).events =
        [u.partRequest body, (u.extend size).closeRequest] ∧
      ((tried u body size serials first second).value = .ok () ∧ Granted (fun _ => True) second ∨
        (tried u body size serials first second).value = u.unprobed (settle true (heard first)) ∧
          ¬ Granted (fun _ => True) second) := by
  obtain ⟨f, hf⟩ := refusesOffset_heard_iff.mpr h
  have hseen :
      (tried u body size serials first second).seen = (probeOutcome f (probed (settle false (heard second))),
      [u.partRequest body, (u.extend size).closeRequest], 2) := by
    rw [tried, ← seen_silent, silent_addPart, seen_ask, replying, if_pos rfl, followed_of_refusesOffset hf];
      rfl
  obtain ⟨hquestions, hvalue⟩ := tried_eq_of_seen hseen
  refine ⟨hquestions, ?_⟩
  rw [hvalue]
  rcases hs : settle false (heard second) with fault | x
  · have hfail := Remote.not_granted (fun _ => True) hs
    obtain ⟨e, rfl⟩ := Remote.settle_heard_eq_error hs
    obtain ⟨hfirst, hstatus, -⟩ := hf
    refine .inr ⟨?_, hfail⟩
    rw [hfirst, unprobed, if_neg (by rw [hstatus]; decide)]; rfl
  · obtain ⟨rfl, hx⟩ := Remote.settle_heard_eq_ok.mp hs
    exact .inl ⟨rfl, x, rfl, hx, trivial⟩

end Replies

/-- A reply with another status does not refuse a part for its offset. -/
theorem not_refused_of_status {x : Response} (h : x.status ≠ 400) : ¬ RefusedForOffset (.ok x) := by
  rintro ⟨y, hy, hstatus, -⟩
  obtain rfl := Except.ok.inj hy
  exact h hstatus

/-- A reply with a status that is no success does not grant a part. -/
theorem not_granted_of_status {x : Response} (h : ¬ (200 ≤ x.status ∧ x.status < 300)) :
    ¬ Granted (fun _ => True) (.ok x) := by
  rintro ⟨y, hy, hsuccess, -⟩
  obtain rfl := Except.ok.inj hy
  exact h (by simpa [Response.isSuccess] using hsuccess)

/-- A part sends its append, and one request more exactly if the append is refused for its offset. It
returns exactly if the append succeeds, or is refused for its offset and the second request succeeds.
Otherwise it ends with the error that the reply to its append tells, whatever became of the second
request. -/
theorem part_outcome (u : Upload) (body : Blob.Content) (size : Int) (serials : Nat)
    (first second : Except RequestFailure Response) :
    let o := tried u body size serials first second
    (Event.questions o.events = [u.partRequest body, (u.extend size).closeRequest] ∧ RefusedForOffset first ∨
      Event.questions o.events = [u.partRequest body] ∧ ¬ RefusedForOffset first) ∧
    (o.value = .ok () ↔ Granted (fun _ => True) first ∨ RefusedForOffset first ∧
      Granted (fun _ => True) second) ∧
    (o.value = .ok () ∨ o.value = .error (.store (u.rejection first))) := by
  intro o
  by_cases h : RefusedForOffset first
  · have hfirst : ¬ Granted (fun _ => True) first := by
      obtain ⟨x, rfl, hstatus, -⟩ := h
      exact not_granted_of_status (by omega)
    obtain ⟨hquestions, hvalue⟩ := tried_of_refused u body size serials second h
    refine ⟨.inl ⟨hquestions, h⟩, ?_⟩
    rcases hvalue with ⟨hvalue, hsecond⟩ | ⟨hvalue, hsecond⟩
    · have hok : o.value = .ok () := hvalue
      simp [hok, h, hsecond]
    · have herror : o.value = .error (.store (u.rejection first)) :=
        hvalue.trans (unprobed_of_not_granted hfirst)
      simp [herror, hfirst, hsecond]
  · obtain ⟨hquestions, hvalue⟩ := tried_of_not_refused u body size serials second h
    refine ⟨.inr ⟨hquestions, h⟩, ?_⟩
    by_cases hfirst : Granted (fun _ => True) first
    · have hok : o.value = .ok () := hvalue.trans (unprobed_of_granted hfirst)
      simp [hok, hfirst]
    · have herror : o.value = .error (.store (u.rejection first)) :=
        hvalue.trans (unprobed_of_not_granted hfirst)
      simp [herror, hfirst, h]

/-! ### Lost leases -/

/-- A part whose append finds no file under its lease is not asked after, and fails. It is not to be
repeated if the body of the reply describes a failure; if the body cannot be read, the failure may pass, as
all such failures may. -/
theorem lost_lease_outcome {x : Response} (hx : x.status = 404) (u : Upload) (body : Blob.Content)
    (size : Int) (serials : Nat) (second : Except RequestFailure Response) :
    let o := tried u body size serials (.ok x) second
    Event.questions o.events = [u.partRequest body] ∧
    ∃ e, o.value = .error (.store e) ∧
      ((∃ d, Payload.decode? Payload.description x.body = some d ∧
          e = .final .invalidArgument ("append rejected for " ++ u.key ++ ": "
            ++ (StoreError.remote (described x.correlation d)).text) (.text u.key)) ∧
          e.retryable = false ∧ e.errno = Errno.invalid ∨
        Payload.decode? Payload.description x.body = none ∧
          e = .temporary .transient ("cannot parse error body for HTTP " ++ toString x.status) .null
            (some .undecodable) ∧
          e.retryable = true ∧ e.errno = Errno.again) := by
  intro o
  obtain ⟨hquestions, hvalue⟩ :=
    tried_of_not_refused u body size serials second (not_refused_of_status (x := x) (by omega))
  rw [unprobed_of_not_granted (not_granted_of_status (by omega))] at hvalue
  refine ⟨hquestions, u.rejection (.ok x), hvalue, ?_⟩
  rw [rejection]
  cases hd : Payload.decode? Payload.description x.body with
  | some d =>
    simp only [if_pos hx]
    exact .inl ⟨⟨d, rfl, rfl⟩, rfl, rfl⟩
  | none => exact .inr ⟨rfl, rfl, rfl, rfl⟩

/-- A reply that says that the file or its lease is gone. -/
def gone (body : Bytes) : Response where
  operation := .append
  status := 404
  body

/-- The upload of a key that was just begun. -/
def fresh : Upload := { key := "k", remotePath := "k", lease := "l" }

/-- A lost lease that the remote describes is not to be repeated. -/
theorem lost_lease_outcome_described :
    ∃ e, (tried fresh (.whole [97]) 1 0 (.ok (gone (Utf8.encode "\x7b\x7d"))) (.ok (gone []))).value =
      .error (.store e) ∧ e.retryable = false ∧ e.errno = Errno.invalid := by
  have hbody : Payload.decode? Payload.description (gone (Utf8.encode "\x7b\x7d")).body = some {} := by
    show Payload.decode? Payload.description (Utf8.encode "\x7b\x7d") = _
    decide +kernel
  obtain ⟨-, e, he, ⟨-, hretry, herrno⟩ | ⟨hnone, -⟩⟩ :=
    lost_lease_outcome (x := gone (Utf8.encode "\x7b\x7d")) rfl fresh (.whole [97]) 1 0 (.ok (gone []))
  · exact ⟨e, he, hretry, herrno⟩
  · rw [hbody] at hnone
    cases hnone

/-- A lost lease whose reply has no body is said to be one that may pass. -/
theorem lost_lease_undescribed :
    ∃ e, (tried fresh (.whole [97]) 1 0 (.ok (gone [])) (.ok (gone []))).value = .error (.store e) ∧
      (gone []).status = 404 ∧ e.retryable = true ∧ e.errno = Errno.again := by
  have hrefused : ¬ RefusedForOffset (.ok (gone [])) := not_refused_of_status (by decide)
  have hvalue := (tried_of_not_refused fresh (.whole [97]) 1 0 (.ok (gone [])) hrefused).2
  rw [unprobed_of_not_granted (not_granted_of_status (by decide))] at hvalue
  exact ⟨_, hvalue, rfl, rfl, rfl⟩

end LakeStore.Upload
