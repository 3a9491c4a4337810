import LakeStore.Backend.Command
import LakeStore.Proofs.Exchange

/-!
Answers that no operation tells apart.

A dialogue that goes on in the same way after two answers runs alike with counterparts that give the one or
the other. Operations see little of a failure: which exchange it belongs to, and what its body is read as.
They go on in the same way after failures that agree in both, down to the records that they write.
-/

namespace LakeStore

namespace Dialogue

variable {P Q : Protocol} {α β σ : Type} {alike : (q : P.Question) → P.Answer q → P.Answer q → Prop}

/-- A dialogue that goes on in the same way after answers that are alike. -/
def Blind (alike : (q : P.Question) → P.Answer q → P.Answer q → Prop) : Dialogue P α → Prop
  | .done _ => True
  | .ask q next => (∀ a a', alike q a a' → next a' = next a) ∧ ∀ a, Blind alike (next a)
  | .note _ next => Blind alike next
  | .draw next => ∀ serial, Blind alike (next serial)

theorem Blind.bind {d : Dialogue P α} {f : α → Dialogue P β} (hd : Blind alike d)
    (hf : ∀ a, Blind alike (f a)) : Blind alike (d >>= f) := by
  induction d with
  | done a => exact hf a
  | ask q next ih => exact ⟨fun a a' h => congrArg (· >>= f) (hd.1 a a' h), fun a => ih a (hd.2 a)⟩
  | note n next ih => exact ih hd
  | draw next ih => exact fun serial => ih serial (hd serial)

/-- A dialogue that is carried over is as blind as those that answer its questions. -/
theorem Blind.via {answer : (q : Q.Question) → Dialogue P (Q.Answer q)} (h : ∀ q, Blind alike (answer q))
    (d : Dialogue Q α) : Blind alike (d.via answer) := by
  induction d with
  | done a => trivial
  | ask q next ih => exact (h q).bind ih
  | note n next ih => exact ih
  | draw next ih => exact ih

/-- What asks nothing is blind. -/
theorem blind_of_silent {d : Dialogue P α} {a : α} (h : d.silent = .done a) : Blind alike d := by
  induction d with
  | done b => trivial
  | ask q next ih => cases h
  | note n next ih => exact ih h
  | draw next ih => cases h

/-- Counterparts that go on in the same way and give answers that are alike are one to a dialogue that is
blind. -/
theorem Blind.run_eq {d : Dialogue P α} (hd : Blind alike d) {c c' : (q : P.Question) → σ → P.Answer q × σ}
    (hc : ∀ q s, alike q (c q s).1 (c' q s).1 ∧ (c' q s).2 = (c q s).2) (serials : Nat) (s : σ) :
    run c' d serials s = run c d serials s := by
  induction d generalizing serials s with
  | done a => rfl
  | ask q next ih =>
    obtain ⟨hanswer, hstate⟩ := hc q s
    have hrest : run c' (next (c' q s).1) serials (c' q s).2 = run c (next (c q s).1) serials (c q s).2 := by
      rw [hd.1 _ _ hanswer, hstate]
      exact ih _ (hd.2 _) serials _
    exact congrArg (fun rest => { rest with events := .asked q :: rest.events }) hrest
  | note n next ih => rw [run, run, ih hd]
  | draw next ih => exact ih _ (hd _) (serials + 1) s

end Dialogue

namespace Remote

open Classification (byBody byStatus ofResponse)

variable {α β : Type} {q : Request} {r r' : Response} {structured : Bool}

/-- A failure that belongs to the same exchange as another one, and describes itself in the same way. -/
structure Response.FailsAs (r r' : Response) : Prop where
  failed : r.isSuccess = false
  correlation : r'.correlation = r.correlation
  description : Payload.decode? Payload.description r'.body = Payload.decode? Payload.description r.body

/-- Answers that are the same, or failures of which one fails as the other. -/
inductive Alike : Except Fault Response → Except Fault Response → Prop
  | refl (a : Except Fault Response) : Alike a a
  | failed {r r' : Response} : r.FailsAs r' → Alike (.ok r) (.ok r')

/-- A call that tells no such answers apart. -/
def Blind (task : Call α) : Prop := Dialogue.Blind (P := protocol) (fun _ => Alike) task.run

theorem Response.FailsAs.status (h : r.FailsAs r') : r'.status = r.status :=
  congrArg Correlation.status h.correlation

theorem Response.FailsAs.also_failed (h : r.FailsAs r') : r'.isSuccess = false := by
  rw [Response.isSuccess, h.status]
  exact h.failed

/-- The error of a failure. -/
def failure (r : Response) (structured : Bool) : Dialogue protocol StoreError :=
  if structured then byBody r else byStatus r.correlation

theorem failure_eq (h : r.FailsAs r') : failure r' structured = failure r structured := by
  rw [failure, failure, byBody, byBody, h.correlation, h.description, h.status]

theorem ofResponse_failed (h : r.isSuccess = false) :
    (ofResponse r structured : Dialogue protocol _) = failure r structured >>= fun e => pure (some e) := by
  rw [ofResponse, h, failure]
  cases structured <;> rfl

/-- A request that is answered by a failure ends with its error. -/
theorem run_answered_failed (h : r.isSuccess = false) :
    (do match ← ExceptT.lift (ofResponse r structured) with
      | some e => throw (Fault.store e)
      | none => return r : Call Response).run = failure r structured >>= fun e =>
          .done (.error (.store e)) := by
  rw [ExceptT.run_bind_lift, ofResponse_failed h]
  exact bind_assoc ..

/-- Failures that belong to one exchange and describe themselves in the same way stand for one error. -/
theorem Response.FailsAs.ofResponse_eq (h : r.FailsAs r') (structured : Bool) :
    (ofResponse r' structured : Dialogue protocol _) = ofResponse r structured := by
  rw [ofResponse_failed h.failed, ofResponse_failed h.also_failed, failure_eq h]

theorem blind_pure (a : α) : Blind (pure a) := trivial

theorem blind_throw (fault : Fault) : Blind (throw fault : Call α) := trivial

theorem blind_bind {task : Call α} {f : α → Call β} (htask : Blind task) (hf : ∀ a, Blind (f a)) :
    Blind (task >>= f) := by
  refine Dialogue.Blind.bind htask fun x => ?_
  cases x with
  | error fault => trivial
  | ok a => exact hf a

theorem blind_map {task : Call α} (g : α → β) (h : Blind task) : Blind (g <$> task) := by
  rw [map_eq_pure_bind]
  exact blind_bind h fun a => blind_pure (g a)

/-- A part of a call that does not fail. -/
theorem blind_lift {d : Dialogue protocol α} (h : Dialogue.Blind (fun _ => Alike) d) :
    Blind (ExceptT.lift d) := by
  rw [Blind, ExceptT.run_lift, map_eq_pure_bind]
  exact h.bind fun _ => trivial

/-- An error of a failure is found without asking. -/
theorem blind_ofResponse : Blind (ExceptT.lift (ofResponse r structured)) :=
  blind_lift (Dialogue.blind_of_silent (Classification.silent_ofResponse r structured))

theorem blind_execute : Blind (execute q structured) := by
  refine ⟨fun a a' h => ?_, fun a => ?_⟩
  · cases h with
    | refl => rfl
    | failed h =>
      -- neither answer is a success, so that what follows is the same but for the error, and that is the same
      exact (run_answered_failed h.also_failed).trans
        ((congrArg (· >>= _) (failure_eq h)).trans (run_answered_failed h.failed).symm)
  · rcases a with fault | r
    · cases fault <;> trivial
    · refine blind_bind blind_ofResponse fun e? => ?_
      cases e? <;> trivial

theorem blind_liftM (x : Except Fault α) : Blind (liftM x) := by cases x <;> trivial

theorem blind_fetch {read : Value → Checked α} : Blind (fetch read q structured) :=
  blind_bind blind_execute fun r => blind_liftM (r.decode read)

/-- A call whose failure is looked at, too. -/
theorem blind_attempt {task : Call α} (h : Blind task) : Blind (ExceptT.lift task.run) := blind_lift h

theorem blind_note {source : Log.Source} {level : Log.Level} {message : String}
    {fields : List (String × Value)} :
    Blind (note source level message fields) := trivial

end Remote

namespace Instrument

open Remote (Alike)

/-- Under an instrument that only writes to the log a call tells apart what it tells apart unobserved. -/
theorem Quiet.blind_observe {x : Instrument (Dialogue Remote.protocol)} (h : x.Quiet)
    (i : Invocation) {α : Type} {call : Call α} (hcall : Remote.Blind call) :
    Remote.Blind (x.observe i call) := by
  have hcomplete (started : Binary64) (failure : Option Fault) :
      Remote.Blind (x.complete i started failure) :=
    Dialogue.blind_of_silent (h.silent_complete i started failure)
  obtain ⟨t, ht⟩ := h.clock
  refine Remote.blind_bind
    (Dialogue.blind_of_silent (silent_tell x _ i _ x.concerns fun c hc => h.invocation c hc i))
    fun _ => Remote.blind_bind (Remote.blind_lift (Dialogue.blind_of_silent ht)) fun started =>
      Remote.blind_bind (Remote.blind_attempt hcall) fun r => ?_
  cases r with
  | ok a => exact Remote.blind_bind (hcomplete started none) fun _ => Remote.blind_pure a
  | error f =>
    show Remote.Blind (if !f.isInterrupt then x.complete i started (some f) >>= fun _ => throw f else throw f)
    cases f.isInterrupt
    · exact Remote.blind_bind (hcomplete started (some f)) fun _ => Remote.blind_throw f
    · exact Remote.blind_throw f

end Instrument

namespace Upload

open Remote

variable {u : Upload} {f : RemoteFailure} {body : Blob.Content} {size : Int}

theorem blind_landed : Blind u.landed :=
  blind_bind (blind_attempt blind_execute) fun r => by
    cases r with
    | ok r => exact blind_bind blind_note fun _ => blind_pure true
    | error fault =>
      cases fault with
      | store e => exact blind_bind blind_note fun _ => blind_pure false
      | _ => exact blind_throw _

theorem blind_remap : Dialogue.Blind (P := protocol) (fun _ => Alike) (Classification.remap f) :=
  Dialogue.blind_of_silent (Classification.silent_remap f)

theorem blind_refusal : Blind (u.refusal f) := by
  have hremap : Blind (ExceptT.lift (Classification.remap f) >>= fun e => throw (.store e) : Call Unit) :=
    blind_bind (blind_lift blind_remap) fun e => blind_throw (.store e)
  rw [refusal]
  split_ifs
  · exact blind_throw _
  · exact blind_bind blind_landed fun landed => by
      cases landed
      · exact hremap
      · exact blind_pure ()
  · exact hremap

theorem blind_appendLast : Blind (u.appendLast body size) :=
  blind_bind (blind_attempt blind_execute) fun r => by
    cases r with
    | ok r => exact blind_pure ()
    | error fault =>
      cases fault with
      | store e =>
        cases e with
        | remote f => exact blind_refusal
        | _ => exact blind_throw _
      | _ => exact blind_throw _

theorem blind_commit : Blind u.commit :=
  blind_bind (blind_attempt blind_execute) fun r => by
    cases r with
    | ok r => exact blind_pure ()
    | error fault =>
      show Blind (if isMissing fault then _ else _)
      split
      · exact blind_note
      · exact blind_throw fault

end Upload

namespace Backend

open Remote

variable {b : Backend} {α : Type} {q : Request} {structured : Bool}

theorem blind_observed {api : Api} {arguments : List (String × Value)} {task : Call α} (h : Blind task) :
    Blind (observed api arguments task) := instrument_quiet.blind_observe _ h

theorem blind_effect {kind : FinalKind} {message : String} {key : Value} :
    Blind (do if !(← takesEffect q structured) then fail kind message key : Call Unit) :=
  blind_bind blind_fetch fun took => by
    cases took
    · exact blind_throw _
    · exact blind_pure ()

theorem blind_deletions {keys : List String} : Blind (keys.forM b.deleteKey) := by
  induction keys with
  | nil => exact blind_pure ()
  | cons key keys ih => exact blind_bind blind_effect fun _ => ih

theorem blind_probe {key : String} : Blind (b.probe key) :=
  blind_observed (blind_bind (blind_attempt blind_execute) fun r => by
    cases r with
    | ok r => exact blind_pure ()
    | error fault =>
      cases fault with
      | store e =>
        cases e with
        | remote f =>
          show Blind (if f.exception ≠ fileNotFound then throw (Fault.store (.remote f))
            else pure () : Call Unit)
          split
          · exact blind_throw _
          · exact blind_pure ()
        | _ => exact blind_throw _
      | _ => exact blind_throw _)

theorem blind_lastModified {s : FileStatus} : Blind (lastModified s) := by
  rw [lastModified]
  split
  · exact blind_pure _
  · exact blind_throw _

theorem blind_list {o : ListOptions} : Blind (b.list o) := by
  refine blind_observed ?_
  cases o.objection? with
  | some why => exact blind_throw _
  | none =>
    have hchildren (key : String) : Blind (b.children key) := blind_fetch
    have hwalk : Blind (b.walk o) :=
      blind_bind (blind_lift (Dialogue.Blind.via hchildren _)) fun p => blind_liftM p.1
    exact blind_bind hwalk fun rows => blind_pure _

theorem blind_requireBucket : Blind b.requireBucket := by
  rw [requireBucket]
  split
  · exact blind_throw _
  · exact blind_pure ()

theorem blind_require (h : Handle) : Blind h.require := by cases h <;> trivial

theorem blind_addPart {h : Handle} {body : Blob.Content} {size : Int} : Blind (addPart h body size).2 := by
  cases h with
  | upload u => exact blind_observed Upload.blind_appendLast
  | other type => exact blind_observed (blind_throw _)

/-- No operation tells apart failures that belong to one exchange and describe themselves in the same way. -/
theorem blind_perform (b : Backend) (c : Command) : Blind (b.perform c) := by
  cases c with
  | probe key => exact blind_map _ blind_probe
  | head key =>
    exact blind_map _ (blind_observed (blind_bind blind_fetch fun s => blind_bind blind_lastModified fun t =>
      blind_pure _))
  | list o => exact blind_map _ blind_list
  | delete key | rename source destination => exact blind_map _ (blind_observed blind_effect)
  | deleteAll keys => exact blind_map _ (blind_observed blind_deletions)
  | copy source destination => exact blind_map _ (blind_observed (blind_throw _))
  | get key o => exact blind_map _ (blind_observed (blind_bind blind_execute fun r => blind_pure _))
  | put key body isDirectory =>
    refine blind_map _ (blind_observed ?_)
    cases isDirectory
    · exact blind_bind blind_execute fun r => blind_pure ()
    · exact blind_effect
  | beginUpload key =>
    exact blind_map _ (blind_observed (blind_bind (blind_lift fun serial => trivial) fun serial =>
      blind_bind blind_execute fun r => blind_pure _))
  | addPart h body size => exact blind_map _ blind_addPart
  | commitUpload h =>
    exact blind_map _ (blind_observed (blind_bind (blind_require h) fun u => Upload.blind_commit))
  | abortUpload h =>
    exact blind_map _ (blind_observed (blind_bind (blind_require h) fun u =>
      blind_bind blind_execute fun r => blind_pure ()))
  | expireUploads => exact blind_map _ (blind_throw _)
  | makeContainer => exact blind_map _ (blind_observed (blind_bind blind_requireBucket fun _ => blind_effect))
  | removeContainer =>
    exact blind_map _ (blind_observed (blind_bind blind_requireBucket fun _ => blind_effect))

end Backend

end LakeStore
