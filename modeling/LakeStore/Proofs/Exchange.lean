import LakeStore.Backend
import LakeStore.Proofs.Dialogue

/-!
What the calls of the store say to the remote, log records aside.

One exchange is a single question, and `settle` says what becomes of its answer. Being told of in the log
changes nothing of what an operation asks or of how it ends.
-/

namespace LakeStore

open Dialogue
open Remote (Request Response execute fetch takesEffect note)

namespace Remote

/-- The error that the status of an exchange selects. -/
def Classification.statusError (c : Correlation) : StoreError :=
  (Status.error? c.status ("HTTP " ++ toString c.status ++ " for " ++ c.operation.name)).getD
    (.final .invalidArgument ("unexpected HTTP " ++ toString c.status ++ " for " ++ c.operation.name) .null)

/-- The error that the body of a failure describes. -/
def Classification.bodyError (r : Response) : StoreError :=
  match Payload.decode? Payload.description r.body with
  | some d => .remote (described r.correlation d)
  | none =>
    .temporary .transient ("cannot parse error body for HTTP " ++ toString r.status) .null (some .undecodable)

/-- The error that a structured failure collapses to. -/
def Classification.collapsed (f : RemoteFailure) : StoreError :=
  match f.origin with
  | some c => statusError c
  | none => Status.errorOrInvalid f.status (StoreError.remote f).text

/-- What becomes of the answer to one request. -/
def settle (structured : Bool) : Except Fault Response → Except Fault Response
  | .error (.request failure) => .error (.store (Classification.ofFault (.request failure)))
  | .error fault => .error fault
  | .ok r =>
    if r.isSuccess then .ok r
    else if structured then .error (.store (Classification.bodyError r))
    else .error (.store (Classification.statusError r.correlation))

namespace Classification

theorem silent_byStatus {P : Protocol} (c : Correlation) :
    (byStatus c : Dialogue P StoreError).silent = .done (statusError c) := by
  unfold byStatus statusError
  cases Status.error? c.status ("HTTP " ++ toString c.status ++ " for " ++ c.operation.name) <;> rfl

theorem silent_byBody {P : Protocol} (r : Response) :
    (byBody r : Dialogue P StoreError).silent = .done (bodyError r) := by
  unfold byBody bodyError
  cases Payload.decode? Payload.description r.body <;> rfl

theorem silent_remap {P : Protocol} (f : RemoteFailure) :
    (remap f : Dialogue P StoreError).silent = .done (collapsed f) := by
  unfold remap collapsed
  cases f.origin with
  | some c => exact silent_byStatus c
  | none => rfl

theorem silent_ofResponse {P : Protocol} (r : Response) (structured : Bool) :
    (ofResponse r structured : Dialogue P (Option StoreError)).silent =
      .done (if r.isSuccess then none
        else some (if structured then bodyError r else statusError r.correlation)) := by
  unfold ofResponse
  cases r.isSuccess <;> cases structured
  · simp [silent_byStatus]
  · simp [silent_byBody]
  · rfl
  · rfl

end Classification

/-- One exchange asks one question. -/
theorem silent_execute (r : Request) (structured : Bool) :
    (execute r structured).run.silent = .ask r fun answer => .done (settle structured answer) := by
  unfold execute
  rw [silent_run_bind, silent_run_lift]
  refine congrArg (Dialogue.ask (P := protocol) r) (funext fun answer => ?_)
  rcases answer with fault | response
  · cases fault <;> rfl
  · show (ExceptT.lift (Classification.ofResponse response structured) >>= _ : Call Response).run.silent = _
    rw [silent_run_bind, silent_run_lift, Classification.silent_ofResponse, settle]
    cases response.isSuccess <;> cases structured <;> rfl

/-- What follows an exchange is told by what became of its answer. -/
theorem silent_execute_bind {α : Type} (r : Request) (structured : Bool) (f : Response → Call α) :
    (execute r structured >>= f).run.silent =
      .ask r fun answer => after (fun response => (f response).run.silent) (settle structured answer) := by
  rw [silent_run_bind, silent_execute]
  rfl

/-- The same where a failure of the exchange is looked at, too. -/
theorem silent_attempt_bind {α : Type} (r : Request) (structured : Bool)
    (f : Except Fault Response → Call α) :
    (ExceptT.lift (execute r structured).run >>= f).run.silent =
      .ask r fun answer => (f (settle structured answer)).run.silent := by
  rw [silent_run_bind, silent_run_lift, silent_execute]
  rfl

theorem silent_fetch {α : Type} (read : Value → Checked α) (r : Request) (structured : Bool) :
    (fetch read r structured).run.silent =
      .ask r fun answer => .done (settle structured answer >>= fun response => response.decode read) := by
  rw [fetch, silent_execute_bind]
  refine congrArg _ (funext fun answer => ?_)
  cases settle structured answer <;> rfl

end Remote

namespace Instrument
variable {P : Protocol} {α : Type}

/-- An instrument that only writes to the log: its hooks and its clock say nothing to the counterpart, and
none of them fails. -/
structure Quiet (x : Instrument (Dialogue P)) : Prop where
  invocation : ∀ c ∈ x.concerns, ∀ i, (c.onInvocation i).run.silent = .done (.ok ())
  completion : ∀ c ∈ x.concerns, ∀ e, (c.onCompletion e).run.silent = .done (.ok ())
  clock : ∃ t, x.clock.silent = .done t

theorem silent_tell (x : Instrument (Dialogue P)) (stage : String) (i : Invocation)
    (hook : Concern (Dialogue P) → ExceptT Fault (Dialogue P) Unit) :
    ∀ cs : List (Concern (Dialogue P)), (∀ c ∈ cs, (hook c).run.silent = .done (.ok ())) →
      (x.tell stage i hook cs).run.silent = .done (.ok ())
  | [], _ => rfl
  | c :: cs, h => by
    rw [tell, silent_run_bind, silent_run_lift, h c List.mem_cons_self]
    exact silent_tell x stage i hook cs fun c' hc' => h c' (List.mem_cons_of_mem c hc')

theorem Quiet.silent_complete {x : Instrument (Dialogue P)} (h : x.Quiet) (i : Invocation)
    (started : Binary64) (failure : Option Fault) :
    (x.complete i started failure).run.silent = .done (.ok ()) := by
  obtain ⟨t, ht⟩ := h.clock
  rw [complete, silent_run_bind, silent_run_liftM, elapsed, silent_bind, ht]
  simp only [done_bind, pure_eq_done, silent_done, after_ok]
  exact silent_tell x _ i _ x.concerns fun c hc => h.completion c hc _

/-- Under such an instrument a call asks what it asks unobserved, and ends in the same way. -/
theorem Quiet.silent_observe {x : Instrument (Dialogue P)} (h : x.Quiet) (i : Invocation)
    (call : ExceptT Fault (Dialogue P) α) : (x.observe i call).run.silent = call.run.silent := by
  obtain ⟨t, ht⟩ := h.clock
  rw [observe, silent_run_bind, silent_tell x _ i _ x.concerns fun c hc => h.invocation c hc i, done_bind,
    after_ok, silent_run_bind, silent_run_liftM, ht, done_bind, done_bind, after_ok, silent_run_bind,
    silent_run_lift, bind_assoc]
  conv_rhs => rw [← bind_done call.run.silent]
  congr 1
  funext r
  rw [done_bind, after_ok]
  rcases r with f | a
  · show (if !f.isInterrupt then x.complete i t (some f) >>= fun _ => throw f
      else throw f : ExceptT Fault (Dialogue P) α).run.silent = _
    cases f.isInterrupt
    · rw [Bool.not_false, if_pos rfl, silent_run_bind, h.silent_complete]; rfl
    · rfl
  · show (x.complete i t none >>= fun _ => pure a).run.silent = _
    rw [silent_run_bind, h.silent_complete]; rfl

end Instrument

theorem Backend.instrument_quiet : Backend.instrument.Quiet where
  invocation c hc i := by
    rw [List.mem_singleton.mp hc]; rfl
  completion c hc e := by
    rw [List.mem_singleton.mp hc]
    show (if e.isSuccess then _ else _ : ExceptT Fault (Dialogue Remote.protocol) Unit).run.silent = _
    cases e.isSuccess <;> rfl
  clock := ⟨.zero, rfl⟩

theorem Backend.silent_observed {α : Type} (api : Backend.Api) (arguments : List (String × Value))
    (task : Call α) : (Backend.observed api arguments task).run.silent = task.run.silent :=
  Backend.instrument_quiet.silent_observe _ task
end LakeStore
