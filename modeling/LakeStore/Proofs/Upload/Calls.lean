import LakeStore.Proofs.Exchange

/-!
What the calls of an upload say to the remote.

Beginning an upload draws a lease and asks for the file to be created under it. A part is one append, and a
refused offset one more question after it: whether the file ends behind the part. Commit and abort are one
append each. Nothing but the answers decides how such a call ends.
-/

namespace LakeStore

open Dialogue
open Remote (Response settle)
open Remote.Classification (collapsed)

namespace Upload

/-- What an answer to the probe says of a part: whether it is in the file. A failure of the probe is one of
the store, or else it ends the call. -/
def probed : Except Fault Response → Except Fault Bool
  | .ok _ => .ok true
  | .error (.store _) => .ok false
  | .error fault => .error fault

/-- What a failure to append means once the lease is gone. -/
def leaseLost (u : Upload) (f : RemoteFailure) : Fault :=
  .store (.final .invalidArgument ("append rejected for " ++ u.key ++ ": " ++ (StoreError.remote f).text)
    (.text u.key))

/-- How an append ends that failed with `f` and was then asked after. -/
def probeOutcome (f : RemoteFailure) : Except Fault Bool → Except Fault Unit
  | .ok true => .ok ()
  | .ok false => .error (.store (collapsed f))
  | .error fault => .error fault

/-- How a commit ends: a missing file is no failure. -/
def committed : Except Fault Response → Except Fault Unit
  | .ok _ => .ok ()
  | .error fault => if isMissing fault then .ok () else .error fault

/-- What follows an append. -/
def followed (u : Upload) : Except Fault Response → Dialogue Remote.protocol (Except Fault Unit)
  | .ok _ => .done (.ok ())
  | .error (.store (.remote f)) => (u.refusal f).run.silent
  | .error fault => .done (.error fault)

variable (u : Upload)

theorem silent_start (permission key path : String) :
    (start permission key path).run.silent =
      .draw fun serial => .ask (createRequest permission path (Identifier.numbered serial)) fun answer =>
        .done ((settle false answer).map fun _ =>
          { key, remotePath := path, lease := Identifier.numbered serial }) := by
  rw [start, silent_run_bind, silent_run_lift]
  refine congrArg Dialogue.draw (funext fun serial => ?_)
  refine (Remote.silent_execute_bind _ false _).trans (congrArg _ (funext fun answer => ?_))
  cases settle false answer <;> rfl

theorem silent_landed :
    u.landed.run.silent =
      .ask (u.appendRequest (some u.size) .close) fun answer => .done (probed (settle false answer)) := by
  rw [landed, Remote.silent_attempt_bind]
  refine congrArg _ (funext fun answer => ?_)
  rcases settle false answer with fault | response
  · cases fault <;> rfl
  · rfl

theorem silent_refusal (f : RemoteFailure) :
    (u.refusal f).run.silent =
      if f.status = 404 then .done (.error (u.leaseLost f))
      else if f.status = 400 ∧ f.exception = Remote.badOffset then
        .ask (u.appendRequest (some u.size) .close) fun answer =>
          .done (probeOutcome f (probed (settle false answer)))
      else .done (.error (.store (collapsed f))) := by
  have hremap :
      (ExceptT.lift (Remote.Classification.remap f) >>= fun e => throw (.store e) : Call Unit).run.silent
      = .done (.error (.store (collapsed f))) := by
    rw [silent_run_bind, silent_run_lift, Remote.Classification.silent_remap]; rfl
  rw [refusal]
  by_cases h404 : f.status = 404
  · rw [if_pos h404, if_pos h404]; rfl
  rw [if_neg h404, if_neg h404]
  by_cases h400 : f.status = 400 ∧ f.exception = Remote.badOffset
  · rw [if_pos h400, if_pos h400, silent_run_bind, silent_landed]
    refine congrArg (Dialogue.ask (P := Remote.protocol) _) (funext fun answer => ?_)
    simp only
    rcases probed (settle false answer) with fault | b
    · rfl
    · cases b
      · exact hremap
      · rfl
  · rw [if_neg h400, if_neg h400]
    exact hremap

theorem silent_appendLast (body : Blob.Content) (size : Int) :
    (u.appendLast body size).run.silent =
      .ask (u.appendRequest (some (u.size - size)) .data body) fun answer =>
        u.followed (settle true answer) := by
  rw [appendLast, Remote.silent_attempt_bind]
  refine congrArg _ (funext fun answer => ?_)
  rcases settle true answer with fault | response
  · rcases fault with e | _
    · cases e <;> rfl
    all_goals rfl
  · rfl

theorem silent_commit :
    u.commit.run.silent =
      .ask (u.appendRequest (some u.size) .close) fun answer => .done (committed (settle false answer)) := by
  rw [commit, Remote.silent_attempt_bind]
  refine congrArg _ (funext fun answer => ?_)
  rcases settle false answer with fault | response
  · show (if isMissing fault then _ else throw fault : Call Unit).run.silent =
      .done (committed (.error fault))
    rw [committed]
    cases isMissing fault <;> rfl
  · rfl

theorem silent_abort :
    u.abort.run.silent =
      .ask (u.appendRequest none .close) fun answer => .done ((settle false answer).map fun _ => ()) := by
  rw [abort, Remote.silent_execute_bind]
  refine congrArg _ (funext fun answer => ?_)
  cases settle false answer <;> rfl

end Upload

end LakeStore
