import LakeStore.Listing
import LakeStore.Proofs.Exchange
import LakeStore.Proofs.Turn

/-!
Conversations with the remote, written down.

A transcript is the list of the requests of a call, each with what it was answered: a response with any
status and any body, or the failure to receive one. A call that is answered by a transcript sends its
requests and no others; so what holds of all transcripts of a call holds whatever the remote does.
-/

namespace LakeStore

open Dialogue
open Remote (Request Response settle)

namespace Remote

/-- A request, and its response or the failure to receive one. -/
structure Exchange where
  request : Request
  answer : Except RequestFailure Response

/-- An answer as a call is told of it. -/
def heard (answer : Except RequestFailure Response) : Except Fault Response := answer.mapError .request

/-- The counterpart that answers as it is written. -/
def scripted (q : Request) (script : List Exchange) (answer : Except Fault Response)
    (rest : List Exchange) : Prop :=
  ∃ a, script = ⟨q, a⟩ :: rest ∧ answer = heard a

/-- A call whose exchanges were these, and which ended in this way. -/
def Says {α : Type} (task : Call α) (xs : List Exchange) (r : Except Fault α) : Prop :=
  Runs (P := protocol) scripted task.run xs r []

section Says

variable {α β : Type} {task : Call α} {xs rest : List Exchange} {r : Except Fault α} {q : Request}

theorem scripted_iff (q : Request) (s : List Exchange) (answer : Except Fault Response) (t : List Exchange) :
    scripted q s answer t ↔ ∃ x, s = x :: t ∧ x.request = q ∧ answer = heard x.answer := by
  constructor
  · rintro ⟨a, rfl, rfl⟩; exact ⟨⟨q, a⟩, rfl, rfl, rfl⟩
  · rintro ⟨x, rfl, rfl, rfl⟩; exact ⟨x.answer, rfl, rfl⟩

/-- What a dialogue leaves of a script is the end of it. -/
theorem runs_scripted_iff {d : Dialogue protocol α} {a : α} {s t : List Exchange} :
    Runs (P := protocol) scripted d s a t ↔ ∃ xs, s = xs ++ t ∧ Runs (P := protocol) scripted d xs a [] :=
  runs_list_iff (P := protocol) scripted_iff

theorem says_congr {other : Call α} (h : task.run.silent = other.run.silent) :
    Says task xs r ↔ Says other xs r := by
  rw [Says, Says, ← runs_silent, h, runs_silent]

theorem says_pure {v : α} : Says (pure v) xs r ↔ xs = [] ∧ r = .ok v :=
  runs_done_iff.trans (by rw [and_comm, eq_comm])

theorem says_throw {fault : Fault} : Says (throw fault : Call α) xs r ↔ xs = [] ∧ r = .error fault :=
  runs_done_iff.trans (by rw [and_comm, eq_comm])

/-- One call after the other: their exchanges follow each other, and a failure ends them. -/
theorem says_bind {f : α → Call β} {r : Except Fault β} :
    Says (task >>= f) xs r ↔
      (∃ a ys zs, xs = ys ++ zs ∧ Says task ys (.ok a) ∧ Says (f a) zs r) ∨
        ∃ fault, Says task xs (.error fault) ∧ r = .error fault := by
  simp only [Says, runs_run_bind]
  refine or_congr_left ⟨?_, ?_⟩
  · rintro ⟨a, zs, htask, hf⟩
    obtain ⟨ys, rfl, hys⟩ := runs_scripted_iff.mp htask
    exact ⟨a, ys, zs, rfl, hys, hf⟩
  · rintro ⟨a, ys, zs, rfl, htask, hf⟩
    exact ⟨a, zs, runs_scripted_iff.mpr ⟨ys, rfl, htask⟩, hf⟩

theorem says_map {g : α → β} {r : Except Fault β} : Says (g <$> task) xs r ↔
    ∃ r', Says task xs r' ∧ r = r'.map g :=
  runs_run_map

/-- An exchange as a turn of a conversation. -/
def Exchange.turn (x : Exchange) : Turn protocol := ⟨x.request, heard x.answer⟩

theorem went_of_says (h : Says task xs r) : Went task.run (xs.map Exchange.turn) r :=
  Runs.rendered (List.map Exchange.turn) (by rintro q _ _ t ⟨a, rfl, rfl⟩; rfl) h

/-- A call that says one thing, log records aside, has one exchange. -/
theorem says_of_silent_eq {f : Except Fault Response → Except Fault α}
    (h : task.run.silent = .ask q fun answer => .done (f answer)) :
    Says task xs r ↔ ∃ a, xs = [⟨q, a⟩] ∧ r = f (heard a) := by
  rw [Says, runs_of_silent_eq h]
  constructor
  · rintro ⟨answer, ⟨a, hxs, rfl⟩, rfl⟩; exact ⟨a, hxs, rfl⟩
  · rintro ⟨a, hxs, rfl⟩; exact ⟨_, ⟨a, hxs, rfl⟩, rfl⟩

end Says

/-! ### What becomes of answers -/

section Answers

variable {α : Type} {a : Except RequestFailure Response} {structured : Bool} {response : Response}
  {fault : Fault} {read : Value → Checked α} {q : Request} {xs : List Exchange}

/-- A call goes on with a response that succeeded, and with nothing else. -/
theorem settle_heard_eq_ok :
    settle structured (heard a) = .ok response ↔ a = .ok response ∧ response.isSuccess = true := by
  rcases a with failure | r
  · simp [heard, Except.mapError, settle]
  · simp only [heard, Except.mapError, settle]
    cases hr : r.isSuccess <;> cases structured <;> simp <;> rintro rfl <;> simp [hr]

/-- Whatever else a call is answered is an error of the store. -/
theorem settle_heard_eq_error (h : settle structured (heard a) = .error fault) : ∃ e, fault = .store e := by
  rcases a with failure | r
  · exact ⟨_, (Except.error.inj h).symm⟩
  · simp only [heard, Except.mapError, settle] at h
    cases hr : r.isSuccess <;> cases structured <;> simp [hr] at h <;> exact ⟨_, h.symm⟩

/-- An answer that is a success, and a response of this kind. -/
def Granted (kind : Response → Prop) (a : Except RequestFailure Response) : Prop :=
  ∃ r, a = .ok r ∧ r.isSuccess = true ∧ kind r

theorem not_granted (kind : Response → Prop) (h : settle structured (heard a) = .error fault) :
    ¬ Granted kind a := by
  rintro ⟨r, hr, hsuccess, -⟩
  rw [settle_heard_eq_ok.mpr ⟨hr, hsuccess⟩] at h
  cases h

/-- What a call reads from an answer. -/
def fetched (read : Value → Checked α) (structured : Bool) (a : Except RequestFailure Response) :
    Except Fault α :=
  settle structured (heard a) >>= fun response => response.decode read

theorem fetched_eq_ok {v : α} :
    fetched read structured a = .ok v ↔
    Granted (fun response => Payload.decode? read response.body = some v) a := by
  rw [fetched]
  constructor
  · intro h
    rcases hs : settle structured (heard a) with fault | response <;> rw [hs] at h
    · cases h
    obtain ⟨rfl, hr⟩ := settle_heard_eq_ok.mp hs
    refine ⟨response, rfl, hr, ?_⟩
    change response.decode read = .ok v at h
    rw [Response.decode] at h
    cases hd : Payload.decode? read response.body with
    | none => rw [hd] at h; cases h
    | some w => rw [hd] at h; exact congrArg some (Except.ok.inj h)
  · rintro ⟨response, rfl, hr, hd⟩
    rw [settle_heard_eq_ok.mpr ⟨rfl, hr⟩]
    show response.decode read = .ok v
    rw [Response.decode, hd]

theorem fetched_eq_error (h : fetched read structured a = .error fault) : ∃ e, fault = .store e := by
  rw [fetched] at h
  rcases hs : settle structured (heard a) with f | response <;> rw [hs] at h
  · obtain ⟨e, rfl⟩ := settle_heard_eq_error hs
    exact ⟨e, (Except.error.inj h).symm⟩
  · change response.decode read = .error fault at h
    rw [Response.decode] at h
    cases hd : Payload.decode? read response.body with
    | none => rw [hd] at h; exact ⟨_, (Except.error.inj h).symm⟩
    | some w => rw [hd] at h; cases h

theorem says_execute {r : Except Fault Response} :
    Says (Remote.execute q structured) xs r ↔ ∃ a, xs = [⟨q, a⟩] ∧ r = settle structured (heard a) :=
  says_of_silent_eq (silent_execute q structured)

theorem says_fetch {r : Except Fault α} : Says (Remote.fetch read q structured) xs r ↔
    ∃ a, xs = [⟨q, a⟩] ∧ r = fetched read structured a :=
  says_of_silent_eq (silent_fetch read q structured)

/-- A failure whose body describes it under this name. -/
def Response.Names (r : Response) (name : String) : Prop :=
  r.isSuccess = false ∧ ∃ d, Payload.decode? Payload.description r.body = some d ∧ d.exception = name

/-- A structured failure is one that a body describes, with the status of its response. -/
theorem settle_heard_eq_remote {f : RemoteFailure} (h : settle true (heard a) = .error (.store (.remote f))) :
    ∃ r, a = .ok r ∧ r.status = f.status ∧ r.Names f.exception := by
  rcases a with failure | r
  · cases h
  simp only [heard, Except.mapError, settle] at h
  cases hr : r.isSuccess with
  | true => simp [hr] at h
  | false =>
    simp only [hr, Bool.false_eq_true, if_false, if_true] at h
    rw [Classification.bodyError] at h
    cases hd : Payload.decode? Payload.description r.body with
    | none => simp [hd] at h
    | some d =>
      rw [hd] at h
      obtain rfl : Classification.described r.correlation d = f := by simpa using h
      exact ⟨r, rfl, rfl, hr, d, hd, rfl⟩

theorem Response.Names.settle_heard {r : Response} {name : String} (h : r.Names name) :
    ∃ f, settle true (heard (.ok r)) = .error (.store (.remote f)) ∧ f.status = r.status ∧
    f.exception = name := by
  obtain ⟨hr, d, hd, hname⟩ := h
  refine ⟨Classification.described r.correlation d, ?_, rfl, hname⟩
  simp only [heard, Except.mapError, settle, hr, Classification.bodyError, hd]
  rfl

/-- An error that only a missing file has. -/
theorem isMissing_statusError (c : Correlation) :
    Listing.isMissing (.store (Classification.statusError c)) = true ↔ c.status = 404 := by
  rw [Classification.statusError, Status.error?]
  constructor
  · intro h
    by_contra hne
    rw [if_neg hne] at h
    split_ifs at h <;> simp [Listing.isMissing] at h
  · intro h
    simp [h, Listing.isMissing]

/-- A call that goes by the status alone finds something missing if the status is 404, and else never. -/
theorem isMissing_settle_heard (h : settle false (heard a) = .error fault) :
    Listing.isMissing fault = true ↔ ∃ r, a = .ok r ∧ r.status = 404 := by
  rcases a with failure | r
  · obtain rfl := Except.error.inj h
    simp [Listing.isMissing, Classification.ofFault]
  simp only [heard, Except.mapError, settle] at h
  cases hr : r.isSuccess with
  | true => simp [hr] at h
  | false =>
    simp only [hr, Bool.false_eq_true, if_false, Except.error.injEq] at h
    rw [← h, isMissing_statusError]
    simp [Response.correlation]

theorem isMissing_fetched (h : fetched read false a = .error fault) :
    Listing.isMissing fault = true ↔ ∃ r, a = .ok r ∧ r.status = 404 := by
  rw [fetched] at h
  rcases hs : settle false (heard a) with f | response <;> rw [hs] at h
  · obtain rfl : f = fault := Except.error.inj h
    exact isMissing_settle_heard hs
  · obtain ⟨rfl, hr⟩ := settle_heard_eq_ok.mp hs
    change response.decode read = .error fault at h
    rw [Response.decode] at h
    cases hd : Payload.decode? read response.body with
    | none =>
      rw [hd] at h
      obtain rfl := Except.error.inj h
      have hstatus : response.status ≠ 404 := fun h404 => by simp [Response.isSuccess, h404] at hr
      simp [Listing.isMissing, hstatus]
    | some w => rw [hd] at h; cases h

end Answers

end Remote

end LakeStore
