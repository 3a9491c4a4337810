import LakeStore.Proofs.Ending

/-!
What a failure says of repeating the call: by its kind, and by its number.

An error that is not structured says the same by both. A structured one never may pass by its kind, but it
has the number of its status, and those of three statuses tell the caller to try again. Only a look at the
root and the creation of a directory show structured errors, so that these are the only operations that
contradict themselves.
-/

namespace LakeStore

open Dialogue
open Remote (Request Response Exchange FileStatus Payload.decode? Payload.effect Payload.description Says
  heard settle fetched execute fetch takesEffect)
open Remote.Classification (described)

variable {f : RemoteFailure}

/-- A status stands for no structured error. -/
theorem Status.getD_ne_remote {status : Int} {message words : String} {kind : FinalKind} {key : Value} :
    (Status.error? status message).getD (.final kind words key) ≠ .remote f := by
  rw [Status.error?]
  split_ifs <;> simp

/-- The numbers that tell a caller to try again. -/
def Errno.TryAgain (n : Value) : Prop := n = .int Errno.again ∨ n = .int Errno.interrupted

namespace StoreError

variable {e : StoreError}

/-- An error that is not structured says the same by its kind and by its number. -/
theorem retryable_iff_tryAgain (h : ∀ f, e ≠ .remote f) :
    e.retryable = true ↔ Errno.TryAgain (Fault.store e).errno := by
  cases e with
  | final kind message key =>
    cases kind <;> simp [retryable, Errno.TryAgain, Fault.errno, errno, kindErrno] <;> decide
  | temporary kind message key cause =>
    cases kind <;> simp [retryable, Errno.TryAgain, Fault.errno, errno, kindErrno]
  | remote f => exact absurd rfl (h f)

/-- An error that is not structured goes by the number of its kind. -/
theorem errno_eq_kindErrno (h : ∀ f, e ≠ .remote f) : e.errno = e.kindErrno := by
  rcases e with _ | _ | f
  · rfl
  · rfl
  · exact absurd rfl (h f)

/-- A structured error goes by the number of the error that its status stands for. -/
theorem errno_remote : (StoreError.remote f).errno = (Status.errorOrInvalid f.status "").errno :=
  (errno_eq_kindErrno fun _ => Status.getD_ne_remote).symm

theorem tryAgain_remote_iff :
    Errno.TryAgain (Fault.store (.remote f)).errno ↔ f.status = 409 ∨ f.status = 429 ∨ f.status = 500 := by
  have hplain : ∀ g, Status.errorOrInvalid f.status "" ≠ .remote g := fun _ => Status.getD_ne_remote
  rw [Fault.errno, errno_remote]
  refine (retryable_iff_tryAgain hplain).symm.trans ?_
  rw [Status.errorOrInvalid, Status.error?]
  split_ifs <;> simp only [Option.getD_some, Option.getD_none, retryable] <;> simp <;> omega

end StoreError

namespace Remote

variable {a : Except RequestFailure Response} {α : Type} {read : Value → Checked α}

/-- A response whose body describes a failure in this way. -/
def Response.Describes (r : Response) (f : RemoteFailure) : Prop :=
  r.isSuccess = false ∧ ∃ d, Payload.decode? Payload.description r.body = some d ∧
    f = described r.correlation d

/-- The structured errors are those that a body describes. -/
theorem settle_heard_eq_remote_iff :
    settle true (heard a) = .error (.store (.remote f)) ↔ ∃ r, a = .ok r ∧ r.Describes f := by
  rcases a with failure | r
  · simp [heard, Except.mapError, settle, Classification.ofFault]
  · simp only [heard, Except.mapError, settle, Response.Describes, Except.ok.injEq, exists_eq_left']
    cases hr : r.isSuccess with
    | true => simp
    | false =>
      rw [Classification.bodyError]
      cases hd : Payload.decode? Payload.description r.body with
      | none => simp
      | some d => simp [eq_comm]

theorem collapsed_ne_remote (g : RemoteFailure) : Classification.collapsed g ≠ .remote f := by
  rw [Classification.collapsed]
  cases g.origin with
  | some c => exact Status.getD_ne_remote
  | none => exact Status.getD_ne_remote

/-- A call that goes by the status alone shows no structured error. -/
theorem settle_heard_ne_remote : settle false (heard a) ≠ .error (.store (.remote f)) := by
  rcases a with failure | r
  · simp [heard, Except.mapError, settle, Classification.ofFault]
  · simp only [heard, Except.mapError, settle]
    cases r.isSuccess with
    | true => simp
    | false =>
      rw [if_neg Bool.false_ne_true, if_neg Bool.false_ne_true]
      exact fun h => Status.getD_ne_remote (Fault.store.inj (Except.error.inj h))

/-- Nor is it one that a payload does not decode. -/
theorem decode_ne_remote {r : Response} : r.decode read ≠ .error (.store (.remote f)) := by
  rw [Response.decode]
  cases Payload.decode? read r.body <;> simp

theorem fetched_eq_remote_iff {structured : Bool} :
    fetched read structured a = .error (.store (.remote f)) ↔
      settle structured (heard a) = .error (.store (.remote f)) := by
  rw [fetched]
  rcases settle structured (heard a) with fault | response
  · show Except.error fault = _ ↔ _
    simp only [Except.error.injEq]
  · exact iff_of_false decode_ne_remote (by simp)

end Remote

namespace Backend

variable {b : Backend} {c : Command} {xs : List Exchange} {r : Except Fault Reply} {α β : Type} {q : Request}

/-! ### Operations that show no structured error -/

/-- A call that shows no structured error, whatever it is answered. -/
def Plain (task : Call α) : Prop := ∀ xs f, ¬ Says task xs (.error (.store (.remote f)))

theorem plain_pure (v : α) : Plain (pure v : Call α) := fun _ _ h => nomatch (Remote.says_pure.mp h).2

theorem plain_throw {fault : Fault} (h : ∀ f, fault ≠ .store (.remote f)) : Plain (throw fault : Call α) :=
  fun _ f hs => h f (Except.error.inj (Remote.says_throw.mp hs).2).symm

theorem plain_fail {kind : FinalKind} {message : String} {key : Value} :
    Plain (fail kind message key : Call α) :=
  plain_throw (by simp)

theorem plain_serial : Plain (ExceptT.lift Dialogue.serial : Call Nat) := fun xs f h => by
  obtain ⟨serial, h⟩ := runs_draw_iff.mp h
  exact plain_pure serial xs f h

theorem plain_bind {task : Call α} {g : α → Call β} (htask : Plain task) (hg : ∀ v, Plain (g v)) :
    Plain (task >>= g) := fun xs f h => by
  rcases Remote.says_bind.mp h with ⟨v, ys, zs, -, -, hzs⟩ | ⟨fault, hxs, hfault⟩
  · exact hg v zs f hzs
  · obtain rfl := Except.error.inj hfault
    exact htask xs f hxs

theorem plain_map {task : Call α} (g : α → β) (htask : Plain task) : Plain (g <$> task) := fun xs f h => by
  obtain ⟨r, hr, heq⟩ := Remote.says_map.mp h
  cases r with
  | error fault =>
    obtain rfl := Except.error.inj heq
    exact htask xs f hr
  | ok v => cases heq

theorem plain_observed {api : Api} {arguments : List (String × Value)} {task : Call α} (h : Plain task) :
    Plain (observed api arguments task) :=
  fun xs f hs => h xs f ((Remote.says_congr (silent_observed api arguments task)).mp hs)

theorem plain_execute : Plain (execute q) := fun xs f h => by
  obtain ⟨a, -, ha⟩ := Remote.says_execute.mp h
  exact Remote.settle_heard_ne_remote ha.symm

theorem plain_fetch {read : Value → Checked α} : Plain (fetch read q) := fun xs f h => by
  obtain ⟨a, -, ha⟩ := Remote.says_fetch.mp h
  exact Remote.settle_heard_ne_remote (Remote.fetched_eq_remote_iff.mp ha.symm)

theorem plain_lastModified {s : FileStatus} : Plain (lastModified s) := by
  rw [lastModified]
  split
  · exact plain_pure _
  · exact plain_throw (by simp)

theorem plain_effect {kind : FinalKind} {message : String} {key : Value} :
    Plain (do if !(← takesEffect q) then fail kind message key : Call Unit) :=
  plain_bind plain_fetch fun took => by
    cases took
    · exact plain_fail
    · exact plain_pure ()

theorem plain_deletions {keys : List String} : Plain (keys.forM b.deleteKey) := by
  induction keys with
  | nil => exact plain_pure ()
  | cons key keys ih => exact plain_bind plain_effect fun _ => ih

theorem plain_list {o : ListOptions} : Plain (b.list o) := fun xs f h => by
  cases ho : o.objection? with
  | some why =>
    have hfail : Plain (fail .notSupported why (.text o.root) : Call Blob.Listing) := plain_fail
    refine hfail xs f ((Remote.says_congr ?_).mp h)
    rw [list, silent_observed, ho]
  | none =>
    obtain ⟨rows, budget, hwalk, hrows⟩ := (b.runs_list ho).mp h
    rcases Listing.walked_or_missing hwalk with ⟨hwalked, -⟩ | ⟨-, -, -, -, -, rfl⟩
    · cases hwalked with
      | ended rows hclear => cases hrows
      | refused hclear hx =>
        obtain rfl := Except.error.inj hrows
        exact Remote.settle_heard_ne_remote (Remote.fetched_eq_remote_iff.mp hx)
      | untimely hclear hs he => cases hrows
      | unfinished hclear hlimit => cases hrows
    · cases hrows

theorem unprobed_ne_remote {u : Upload} {x : Except Fault Response} :
    u.unprobed x ≠ .error (.store (.remote f)) := by
  intro h
  rcases x with fault | response
  · cases fault with
    | store e =>
      cases e with
      | remote g =>
        have hfault := Except.error.inj h
        split_ifs at hfault
        · cases hfault
        · exact Remote.collapsed_ne_remote g (Fault.store.inj hfault)
      | _ => cases h
    | _ => cases h
  · cases h

theorem probeOutcome_ne_remote {g : RemoteFailure} {x : Except Fault Response} :
    Upload.probeOutcome g (Upload.probed x) ≠ .error (.store (.remote f)) := by
  intro h
  rcases x with fault | response
  · cases fault with
    | store e => exact Remote.collapsed_ne_remote g (Fault.store.inj (Except.error.inj h))
    | _ => cases h
  · cases h

theorem plain_addPart {h : Handle} {body : Blob.Content} {size : Int} : Plain (addPart h body size).2 := by
  cases h with
  | other type => exact plain_observed (plain_throw (by simp))
  | upload u =>
    intro xs f hs
    generalize hr : (Except.error (.store (.remote f)) : Except Fault Unit) = r at hs
    cases Upload.runs_addPart.mp hs with
    | answered hx hplain => exact unprobed_ne_remote hr.symm
    | probed hx hrefuses hprobe => exact probeOutcome_ne_remote hr.symm

theorem plain_commitUpload {h : Handle} : Plain (commitUpload h) := by
  cases h with
  | other type => exact plain_observed (plain_throw (by simp))
  | upload u =>
    intro xs f hs
    obtain ⟨answer, ⟨a, -, rfl⟩, hr⟩ := Upload.runs_commitUpload.mp hs
    rcases ha : settle false (heard a) with fault | response <;> rw [ha, Upload.committed] at hr
    · split_ifs at hr
      obtain rfl := Except.error.inj hr
      exact Remote.settle_heard_ne_remote ha
    · cases hr

theorem plain_abortUpload {h : Handle} : Plain (abortUpload h) := by
  cases h with
  | other type => exact plain_observed (plain_throw (by simp))
  | upload u =>
    exact plain_observed (plain_bind (plain_pure u) fun _ => plain_bind plain_execute fun _ => plain_pure ())

theorem plain_requireBucket : Plain b.requireBucket := by
  rw [requireBucket]
  split
  · exact plain_fail
  · exact plain_pure ()

/-! ### Operations that show them -/

/-- The structured errors that a command shows, by what it was answered: a look at the root shows all but a
missing file, and the creation of a directory shows all. -/
inductive Command.Shows : Command → List (Except RequestFailure Response) → RemoteFailure → Prop
  | root {key : String} {r : Response} {f : RemoteFailure} :
      r.Describes f → f.exception ≠ Remote.fileNotFound →
      Shows (.probe key) [.ok r] f
  | directory {key : String} {body : Blob.Content} {r : Response} {f : RemoteFailure} : r.Describes f →
      Shows (.put key body true) [.ok r] f
  | container {r : Response} {f : RemoteFailure} : r.Describes f → Shows .makeContainer [.ok r] f

/-- A look at the root shows every structured error but a missing file. -/
theorem rooted_eq_remote_iff {x : Except Fault Response} :
    rooted x = .error (.store (.remote f)) ↔
      x = .error (.store (.remote f)) ∧ f.exception ≠ Remote.fileNotFound := by
  rcases x with fault | response
  · cases fault with
    | store e =>
      cases e with
      | remote g =>
        rw [rooted]
        split_ifs with hname
        · simp only [Except.error.injEq, Fault.store.injEq, StoreError.remote.injEq]
          exact ⟨fun heq => ⟨heq, heq ▸ hname⟩, And.left⟩
        · refine iff_of_false (by simp) ?_
          rintro ⟨heq, hf⟩
          obtain rfl := StoreError.remote.inj (Fault.store.inj (Except.error.inj heq))
          exact hname hf
      | _ => simp [rooted]
    | _ => simp [rooted]
  · simp [rooted]

theorem probe_eq_remote_iff {key : String} {r : Except Fault Unit} (h : Says (b.probe key) xs r) :
    r = .error (.store (.remote f)) ↔
      ∃ response, xs.map Exchange.answer = [.ok response] ∧ response.Describes f ∧
        f.exception ≠ Remote.fileNotFound := by
  obtain ⟨a, rfl, rfl⟩ := (Remote.says_of_silent_eq (silent_probe b key)).mp h
  rw [rooted_eq_remote_iff, Remote.settle_heard_eq_remote_iff]
  constructor
  · rintro ⟨⟨response, rfl, hf⟩, hname⟩
    exact ⟨response, rfl, hf, hname⟩
  · rintro ⟨response, hresponse, hf, hname⟩
    exact ⟨⟨response, (List.singleton_inj.mp hresponse), hf⟩, hname⟩

theorem effect_eq_remote_iff {kind : FinalKind} {message : String} {key : Value} {r : Except Fault Unit}
    (h : Says (do if !(← takesEffect q true) then fail kind message key : Call Unit) xs r) :
    r = .error (.store (.remote f)) ↔
      ∃ response, xs.map Exchange.answer = [.ok response] ∧ response.Describes f := by
  rcases Remote.says_bind.mp h with ⟨took, ys, zs, rfl, hys, hzs⟩ | ⟨fault, hxs, rfl⟩
  · -- an answer that tells of the effect describes no failure, and the error for none is a lasting one
    obtain ⟨a, rfl, ha⟩ := Remote.says_fetch.mp hys
    have hends : zs = [] ∧ r ≠ .error (.store (.remote f)) := by
      cases took with
      | true =>
        obtain ⟨rfl, rfl⟩ := Remote.says_pure.mp hzs
        exact ⟨rfl, by simp⟩
      | false =>
        obtain ⟨rfl, rfl⟩ := Remote.says_throw.mp hzs
        exact ⟨rfl, by simp⟩
    obtain ⟨rfl, hr⟩ := hends
    refine iff_of_false hr ?_
    rintro ⟨response, hresponse, hf⟩
    have hsettled := Remote.settle_heard_eq_remote_iff.mpr ⟨response, rfl, hf⟩
    obtain rfl : a = .ok response := by simpa using hresponse
    rw [Remote.fetched_eq_remote_iff.mpr hsettled] at ha
    cases ha
  · obtain ⟨a, rfl, ha⟩ := Remote.says_fetch.mp hxs
    have hiff : (Except.error fault : Except Fault Bool) = .error (.store (.remote f)) ↔ _ :=
      ha ▸ Remote.fetched_eq_remote_iff.trans Remote.settle_heard_eq_remote_iff
    simpa using hiff

theorem makeContainer_eq_remote_iff {r : Except Fault Unit} (h : Says b.makeContainer xs r) :
    r = .error (.store (.remote f)) ↔
      ∃ response, xs.map Exchange.answer = [.ok response] ∧ response.Describes f := by
  have h := (Remote.says_congr (silent_observed _ _ _)).mp h
  rcases Remote.says_bind.mp h with ⟨u, ys, zs, rfl, hys, hzs⟩ | ⟨fault, hxs, rfl⟩
  · obtain rfl : ys = [] := by
      rw [requireBucket] at hys
      split at hys
      · cases (Remote.says_throw.mp hys).2
      · exact (Remote.says_pure.mp hys).1
    exact effect_eq_remote_iff hzs
  · have hno : xs = [] := by
      rw [requireBucket] at hxs
      split at hxs
      · exact (Remote.says_throw.mp hxs).1
      · exact (Remote.says_pure.mp hxs).1
    refine iff_of_false (fun hf => plain_requireBucket xs f (Except.error.inj hf ▸ hxs)) ?_
    simp [hno]

/-- The operations that decode the body of a failure and pass on what it describes. -/
def Command.Structured : Command → Prop
  | .probe _ | .put _ _ true | .makeContainer => True
  | _ => False

theorem plain_perform (hc : ¬ c.Structured) : Plain (b.perform c) := by
  cases c with
  | probe key | makeContainer => exact absurd trivial hc
  | head key =>
    exact plain_map _ (plain_observed (plain_bind plain_fetch fun _ =>
      plain_bind plain_lastModified fun _ => plain_pure _))
  | list o => exact plain_map _ plain_list
  | delete key | rename source destination => exact plain_map _ (plain_observed plain_effect)
  | deleteAll keys => exact plain_map _ (plain_observed plain_deletions)
  | copy source destination => exact plain_map _ (plain_observed plain_fail)
  | get key o => exact plain_map _ (plain_observed (plain_bind plain_execute fun _ => plain_pure _))
  | put key body isDirectory =>
    cases isDirectory with
    | true => exact absurd trivial hc
    | false => exact plain_map _ (plain_observed (plain_bind plain_execute fun _ => plain_pure ()))
  | beginUpload key =>
    exact plain_map _
      (plain_observed (plain_bind plain_serial fun _ => plain_bind plain_execute fun _ => plain_pure _))
  | addPart h body size => exact plain_map _ plain_addPart
  | commitUpload h => exact plain_map _ plain_commitUpload
  | abortUpload h => exact plain_map _ plain_abortUpload
  | expireUploads => exact plain_map _ plain_fail
  | removeContainer =>
    exact plain_map _ (plain_observed (plain_bind plain_requireBucket fun _ => plain_effect))

theorem map_eq_error_iff {x : Except Fault α} {g : α → β} {fault : Fault} :
    x.map g = .error fault ↔ x = .error fault := by
  cases x <;> simp [Except.map]

/-- The structured errors that a command ends with are those that it shows. -/
theorem eq_remote_iff_shows (h : Says (b.perform c) xs r) :
    r = .error (.store (.remote f)) ↔ c.Shows (xs.map Exchange.answer) f := by
  by_cases hc : c.Structured
  · cases c with
    | probe key =>
      obtain ⟨x, hx, rfl⟩ := Remote.says_map.mp h
      rw [map_eq_error_iff, probe_eq_remote_iff hx]
      constructor
      · rintro ⟨response, hresponse, hf, hname⟩
        exact hresponse ▸ .root hf hname
      · generalize xs.map Exchange.answer = answers
        rintro (⟨hf, hname⟩ | _ | _)
        exact ⟨_, rfl, hf, hname⟩
    | put key body isDirectory =>
      cases isDirectory with
      | false => cases hc
      | true =>
        obtain ⟨x, hx, rfl⟩ := Remote.says_map.mp h
        rw [map_eq_error_iff, effect_eq_remote_iff ((Remote.says_congr (silent_observed _ _ _)).mp hx)]
        constructor
        · rintro ⟨response, hresponse, hf⟩
          exact hresponse ▸ .directory hf
        · generalize xs.map Exchange.answer = answers
          rintro (_ | ⟨hf⟩ | _)
          exact ⟨_, rfl, hf⟩
    | makeContainer =>
      obtain ⟨x, hx, rfl⟩ := Remote.says_map.mp h
      rw [map_eq_error_iff, makeContainer_eq_remote_iff hx]
      constructor
      · rintro ⟨response, hresponse, hf⟩
        exact hresponse ▸ .container hf
      · generalize xs.map Exchange.answer = answers
        rintro (_ | _ | ⟨hf⟩)
        exact ⟨_, rfl, hf⟩
    | _ => cases hc
  · refine iff_of_false (fun hr => plain_perform hc xs f (hr ▸ h)) ?_
    generalize xs.map Exchange.answer = answers
    rintro (_ | _ | _) <;> exact hc trivial

/-! ### Kind and number -/

/-- Whoever repeats a call that may be repeated by its kind may repeat it by its number. The two say the
same unless the call shows a structured error with one of the three statuses that stand for errors that may
pass. -/
theorem retryable_iff_errno {e : StoreError} (h : Says (b.perform c) xs (.error (.store e))) :
    (e.retryable = true → Errno.TryAgain (Fault.store e).errno) ∧
      ((e.retryable = true ↔ Errno.TryAgain (Fault.store e).errno) ↔
        ∀ f, c.Shows (xs.map Exchange.answer) f → f.status ≠ 409 ∧ f.status ≠ 429 ∧ f.status ≠ 500) := by
  have hshows (f : RemoteFailure) : e = .remote f ↔ c.Shows (xs.map Exchange.answer) f := by
    rw [← eq_remote_iff_shows h, Except.error.injEq, Fault.store.injEq]
  by_cases he : ∃ f, e = .remote f
  · obtain ⟨f, rfl⟩ := he
    have hfinal : (StoreError.remote f).retryable ≠ true := Bool.false_ne_true
    refine ⟨fun hretry => absurd hretry hfinal, ?_⟩
    have hunique (g : RemoteFailure) : c.Shows (xs.map Exchange.answer) g ↔ g = f := by
      rw [← hshows, StoreError.remote.injEq, eq_comm]
    simp only [hunique, forall_eq, iff_false_left hfinal, StoreError.tryAgain_remote_iff, not_or]
  · have hplain : ∀ f, e ≠ .remote f := fun f hf => he ⟨f, hf⟩
    have hiff := StoreError.retryable_iff_tryAgain hplain
    exact ⟨hiff.mp, fun _ f hf => absurd ((hshows f).mpr hf) (hplain f), fun _ => hiff⟩

/-- A failure of this status that is described by an empty object. -/
def bare (status : Int) : Response where
  operation := .getFileStatus
  status
  body := Utf8.encode "\x7b\x7d"

theorem bare_describes {status : Int} (h : (bare status).isSuccess = false) :
    (bare status).Describes (described (bare status).correlation {}) :=
  ⟨h, {}, by show Payload.decode? Payload.description (Utf8.encode "\x7b\x7d") = _; decide +kernel, rfl⟩

/-- A look at the root that is answered with a bare failure fails with it. -/
theorem says_probe_bare (b : Backend) (key : String) {status : Int} (h : (bare status).isSuccess = false) :
    Says (b.perform (.probe key)) [⟨{ operation := .getFileStatus, path := b.path key }, .ok (bare status)⟩]
      (.error (.store (.remote (described (bare status).correlation {})))) :=
  Remote.says_map.mpr ⟨_, (Remote.says_of_silent_eq (silent_probe b key)).mpr ⟨_, rfl, rfl⟩, by
    rw [Remote.settle_heard_eq_remote_iff.mpr ⟨_, rfl, bare_describes h⟩]; rfl⟩

/-- A look at the root that is refused is not to be repeated, by its kind as by its number. -/
theorem retryable_iff_errno_forbidden :
    ∃ xs e, Says (perform ⟨{ endpoint := "a.b" }, 0⟩ (.probe "")) xs (.error (.store e)) ∧
      xs.map Exchange.answer = [.ok (bare 403)] ∧
      (e.retryable = true ↔ Errno.TryAgain (Fault.store e).errno) := by
  have hbare : (bare 403).isSuccess = false := rfl
  have hs := says_probe_bare ⟨{ endpoint := "a.b" }, 0⟩ "" hbare
  refine ⟨_, _, hs, rfl, (retryable_iff_errno hs).2.mpr fun f hf => ?_⟩
  cases StoreError.remote.inj (Fault.store.inj (Except.error.inj ((eq_remote_iff_shows hs).mpr hf)))
  decide

/-- A look at the root that the remote was too busy for is to be repeated by its number, and not by its
kind. -/
theorem probe_busy :
    ∃ xs e, Says (perform ⟨{ endpoint := "a.b" }, 0⟩ (.probe "")) xs (.error (.store e)) ∧
      xs.map Exchange.answer = [.ok (bare 500)] ∧ e.retryable = false ∧
      (Fault.store e).errno = .int Errno.again :=
  ⟨_, _, says_probe_bare _ _ rfl, rfl, rfl, rfl⟩

end Backend

end LakeStore
