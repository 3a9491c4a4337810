import LakeStore.Backend.Command
import LakeStore.Proofs.Upload.Parts
import LakeStore.Proofs.Walk

/-!
How the operations of the backend end, whatever the remote answers.

An operation returns if all of its answers are as it needs them, and in four more cases in which a failure
is no failure to it. Otherwise it fails, nearly always with an error of the store. The exceptions are a
handle that is not one of this backend, and a status whose time is no instant.
-/

namespace LakeStore.Backend

open Dialogue
open Remote (Request Response FileStatus Exchange Payload.decode? Payload.effect Payload.status
  Payload.statuses Granted Says heard settle fetched execute takesEffect)

/-! ### What an operation needs -/

namespace Command

/-- What the response of a success has to be for a command to go on. -/
def Needs : Command → Response → Prop
  | .delete _, r | .deleteAll _, r | .rename .., r | .put _ _ true, r | .makeContainer, r
  | .removeContainer, r =>
    Payload.decode? Payload.effect r.body = some true
  | .head _, r => ∃ s, Payload.decode? Payload.status r.body = some s
  | .list _, r => ∃ statuses, Payload.decode? Payload.statuses r.body = some statuses
  | _, _ => True

/-- The failures that are none to a command, with its reply to them. -/
inductive Excuses : Command → List (Except RequestFailure Response) → Reply → Prop
  | absentRoot {key : String} {r : Response} :
      r.Names Remote.fileNotFound → Excuses (.probe key) [.ok r] .done
  | absentDirectory {o : ListOptions} {r : Response} :
      r.status = 404 → Excuses (.list o) [.ok r] (.listing {})
  | absentFile {h : Handle} {r : Response} : r.status = 404 → Excuses (.commitUpload h) [.ok r] .done
  | landed {h : Handle} {body : Blob.Content} {size : Int} {r probe : Response} : r.status = 400 →
      r.Names Remote.badOffset → probe.isSuccess = true →
      Excuses (.addPart h body size) [.ok r, .ok probe] .done

/-- The commands to which every failure is one. -/
def Strict : Command → Prop
  | .probe _ | .list _ | .commitUpload _ | .addPart .. => False
  | _ => True

theorem Strict.not_excuses {c : Command} (h : c.Strict) (answers : List (Except RequestFailure Response))
    (reply : Reply) : ¬ c.Excuses answers reply := by
  intro hx
  cases hx <;> exact h

/-- The answers with which a command returns: all are as it needs them, or they are excused. -/
def Accepts (c : Command) (answers : List (Except RequestFailure Response)) : Prop :=
  (∀ a ∈ answers, Granted c.Needs a) ∨ ∃ reply, c.Excuses answers reply

/-- The arguments that are not refused at once. Copies and the expiry of uploads are not supported at all. -/
def Admissible (b : Backend) : Command → Prop
  | .list o => o.delimiter = none ∧ o.continuationToken = none ∧ o.startAfter = none ∨ o.delimiter = some "/"
  | .copy .. | .expireUploads => False
  | .addPart h _ _ | .commitUpload h | .abortUpload h => ∃ u, h = .upload u
  | .makeContainer | .removeContainer => b.bucket ≠ ""
  | _ => True

/-- An answer that tells a command of a status, whose time the command may report. -/
def Reports : Command → Except RequestFailure Response → FileStatus → Prop
  | .head _, a, s => Granted (fun r => Payload.decode? Payload.status r.body = some s) a
  | .list _, a, s =>
    ∃ statuses, Granted (fun r => Payload.decode? Payload.statuses r.body = some statuses) a ∧ s ∈ statuses
  | _, _, _ => False

end Command

variable {b : Backend} {c : Command} {xs : List Exchange} {α β : Type}
  {good : Except RequestFailure Response → Prop} {q : Request} {structured : Bool}

/-- How a command may end, given its exchanges. -/
inductive Ending (b : Backend) (c : Command) (xs : List Exchange) : Except Fault Reply → Prop
  | returned {reply : Reply} : c.Admissible b → (∀ x ∈ xs, Granted c.Needs x.answer) →
      Ending b c xs (.ok reply)
  | excused {reply : Reply} : c.Admissible b → c.Excuses (xs.map Exchange.answer) reply →
      Ending b c xs (.ok reply)
  | objected {e : StoreError} : ¬ c.Admissible b → Ending b c xs (.error (.store e))
  | refused {e : StoreError} : ¬ c.Accepts (xs.map Exchange.answer) → Ending b c xs (.error (.store e))
  | foreign {type : String} : c.handle? = some (.other type) → Ending b c xs (.error (.handle type))
  | untimely {x : Exchange} {s : FileStatus} {e : TimeFault} : x ∈ xs → c.Reports x.answer s →
      s.lastModified = .error e → Ending b c xs (.error (.time e))
  | unfinished : b.reach < xs.length → Ending b c xs (.error .unfinished)

/-! ### Calls that need nothing but good answers -/

/-- A call that returns if all its answers are good, and fails with an error of the store otherwise. -/
def Heeds (good : Except RequestFailure Response → Prop) (task : Call α) : Prop :=
  ∀ xs r, Says task xs r →
    (∃ v, r = .ok v) ∧ (∀ x ∈ xs, good x.answer) ∨ (∃ e, r = .error (.store e)) ∧ ∃ x ∈ xs, ¬ good x.answer

theorem heeds_pure (v : α) : Heeds good (pure v : Call α) := by
  intro xs r h
  obtain ⟨rfl, rfl⟩ := Remote.says_pure.mp h
  exact .inl ⟨⟨v, rfl⟩, fun _ hx => absurd hx List.not_mem_nil⟩

theorem heeds_serial : Heeds good (ExceptT.lift Dialogue.serial : Call Nat) := by
  intro xs r h
  obtain ⟨serial, h⟩ := runs_draw_iff.mp h
  exact heeds_pure serial xs r h

theorem heeds_bind {task : Call α} {f : α → Call β} (htask : Heeds good task) (hf : ∀ v, Heeds good (f v)) :
    Heeds good (task >>= f) := by
  intro xs r h
  rcases Remote.says_bind.mp h with ⟨v, ys, zs, rfl, hys, hzs⟩ | ⟨fault, hxs, rfl⟩
  · rcases htask ys _ hys with ⟨-, hgood⟩ | ⟨⟨e, he⟩, -⟩
    · rcases hf v zs r hzs with ⟨hr, hrest⟩ | ⟨hr, x, hx, hbad⟩
      · exact .inl ⟨hr, List.forall_mem_append.mpr ⟨hgood, hrest⟩⟩
      · exact .inr ⟨hr, x, List.mem_append_right ys hx, hbad⟩
    · cases he
  · rcases htask xs _ hxs with ⟨⟨v, hv⟩, -⟩ | ⟨⟨e, he⟩, hbad⟩
    · cases hv
    · exact .inr ⟨⟨e, congrArg Except.error (Except.error.inj he)⟩, hbad⟩

theorem heeds_observed {api : Api} {arguments : List (String × Value)} {task : Call α} (h : Heeds good task) :
    Heeds good (observed api arguments task) :=
  fun xs r hs => h xs r ((Remote.says_congr (silent_observed api arguments task)).mp hs)

theorem heeds_execute : Heeds (Granted fun _ => True) (execute q structured) := by
  intro xs r h
  obtain ⟨a, rfl, hr⟩ := Remote.says_execute.mp h
  simp only [List.mem_singleton, forall_eq, exists_eq_left]
  rcases ha : settle structured (heard a) with fault | response
  · obtain ⟨e, rfl⟩ := Remote.settle_heard_eq_error ha
    exact .inr ⟨⟨e, hr.trans ha⟩, Remote.not_granted _ ha⟩
  · obtain ⟨rfl, hsuccess⟩ := Remote.settle_heard_eq_ok.mp ha
    exact .inl ⟨⟨_, hr.trans ha⟩, _, rfl, hsuccess, trivial⟩

/-- A request that has to take effect. -/
theorem heeds_effect {kind : FinalKind} {message : String} {key : Value} :
    Heeds (Granted fun r => Payload.decode? Payload.effect r.body = some true)
      (do if !(← takesEffect q structured) then fail kind message key : Call Unit) := by
  intro xs r h
  rcases Remote.says_bind.mp h with ⟨took, ys, zs, rfl, hfetch, hrest⟩ | ⟨fault, hfetch, rfl⟩
  · obtain ⟨a, rfl, ha⟩ := Remote.says_fetch.mp hfetch
    have hgranted := Remote.fetched_eq_ok.mp ha.symm
    cases took with
    | true =>
      obtain ⟨rfl, rfl⟩ := Remote.says_pure.mp hrest
      exact .inl ⟨⟨(), rfl⟩, by simpa using hgranted⟩
    | false =>
      obtain ⟨rfl, rfl⟩ := Remote.says_throw.mp hrest
      refine .inr ⟨⟨_, rfl⟩, _, List.mem_singleton_self _, ?_⟩
      rintro ⟨response, rfl, -, htrue⟩
      obtain ⟨_, hsame, -, hfalse⟩ := hgranted
      cases hsame
      rw [htrue] at hfalse
      cases hfalse
  · obtain ⟨a, rfl, ha⟩ := Remote.says_fetch.mp hfetch
    obtain ⟨e, rfl⟩ := Remote.fetched_eq_error ha.symm
    refine .inr ⟨⟨e, rfl⟩, _, List.mem_singleton_self _, fun hgranted => ?_⟩
    rw [Remote.fetched_eq_ok.mpr hgranted] at ha
    cases ha

theorem heeds_deletions {keys : List String} :
    Heeds (Granted fun r => Payload.decode? Payload.effect r.body = some true) (keys.forM b.deleteKey) := by
  induction keys with
  | nil => exact heeds_pure ()
  | cons key keys ih => exact heeds_bind heeds_effect fun _ => ih

/-- A command that is such a call, and has no excuse for a failure, ends so. -/
theorem ending_of_heeds {task : Call α} {g : α → Reply} {r : Except Fault Reply} (hs : Says (g <$> task) xs r)
    (hc : c.Admissible b) (hstrict : c.Strict) (h : Heeds (Granted c.Needs) task) :
    Ending b c xs r := by
  obtain ⟨r', hr', rfl⟩ := Remote.says_map.mp hs
  rcases h xs r' hr' with ⟨⟨v, rfl⟩, hgood⟩ | ⟨⟨e, rfl⟩, x, hmem, hbad⟩
  · exact .returned hc hgood
  · refine .refused ?_
    rintro (hgood | ⟨reply, hreply⟩)
    · exact hbad (hgood _ (List.mem_map_of_mem hmem))
    · exact hstrict.not_excuses _ _ hreply

/-- A call that fails before its first exchange. -/
theorem eq_error_of_silent {fault : Fault} {task : Call α} {g : α → Reply} {r : Except Fault Reply}
    (hs : Says (g <$> task) xs r) (h : task.run.silent = .done (.error fault)) : r = .error fault := by
  obtain ⟨r', hr', rfl⟩ := Remote.says_map.mp hs
  have hthrow : Says (throw fault : Call α) xs r' := (Remote.says_congr h).mp hr'
  obtain ⟨-, rfl⟩ := Remote.says_throw.mp hthrow
  rfl

/-- A command that cannot do without a bucket. -/
theorem ending_requireBucket {api : Api} {arguments : List (String × Value)} {task : Call α} {g : α → Reply}
    {r : Except Fault Reply}
    (hs : Says (g <$> observed api arguments (b.requireBucket >>= fun _ => task)) xs r)
    (hc : c.Admissible b ↔ b.bucket ≠ "") (hstrict : c.Strict) (h : Heeds (Granted c.Needs) task) :
    Ending b c xs r := by
  by_cases hb : b.bucket = ""
  · have hfail : (b.requireBucket >>= fun _ => task).run.silent =
        .done (.error (.store (.final .invalidArgument "no container configured" .null))) := by
      rw [requireBucket, if_pos hb]; rfl
    rw [eq_error_of_silent hs ((silent_observed _ _ _).trans hfail)]
    exact .objected fun hadmissible => hc.mp hadmissible hb
  · have hpass : Heeds (Granted c.Needs) b.requireBucket := by
      rw [requireBucket, if_neg hb]; exact heeds_pure ()
    exact ending_of_heeds hs (hc.mpr hb) hstrict (heeds_observed (heeds_bind hpass fun _ => h))

/-! ### The other calls -/

variable {key : String} {r : Except Fault Reply} {a : Except RequestFailure Response}

/-- One answer is not accepted that is not as it is needed, and not excused. -/
theorem not_accepts (hbad : ¬ Granted c.Needs a) (hx : ∀ reply, ¬ c.Excuses [a] reply) : ¬ c.Accepts [a] := by
  rintro (hgood | ⟨reply, hreply⟩)
  · exact hbad (hgood a (List.mem_singleton_self a))
  · exact hx reply hreply

/-- How a look at the root ends: a missing one is no failure. -/
def rooted : Except Fault Response → Except Fault Unit
  | .ok _ => .ok ()
  | .error (.store (.remote f)) => if f.exception ≠ Remote.fileNotFound then .error (.store (.remote f))
      else .ok ()
  | .error fault => .error fault

theorem silent_probe (b : Backend) (key : String) :
    (b.probe key).run.silent = .ask { operation := .getFileStatus, path := b.path key } fun answer =>
      .done (rooted (settle true answer)) := by
  rw [probe, silent_observed, Remote.silent_attempt_bind]
  refine congrArg _ (funext fun answer => ?_)
  rcases settle true answer with fault | response
  · cases fault with
    | store e =>
      cases e with
      | remote f =>
        show (if f.exception ≠ Remote.fileNotFound then throw (Fault.store (.remote f))
          else pure () : Call Unit).run.silent
          = .done (if f.exception ≠ Remote.fileNotFound then .error (.store (.remote f)) else .ok ())
        split <;> rfl
      | _ => rfl
    | _ => rfl
  · rfl

theorem ending_probe (h : Says (b.perform (.probe key)) xs r) : Ending b (.probe key) xs r := by
  obtain ⟨r', hprobe, rfl⟩ := Remote.says_map.mp h
  obtain ⟨a, rfl, rfl⟩ := (Remote.says_of_silent_eq (silent_probe b key)).mp hprobe
  rcases ha : settle true (heard a) with fault | response
  · obtain ⟨e, rfl⟩ := Remote.settle_heard_eq_error ha
    -- an excuse names a missing file, and so does the error of the call then
    have hexcuse : ∀ reply, (Command.probe key).Excuses [a] reply →
        ∃ f, e = .remote f ∧ f.exception = Remote.fileNotFound := by
      rintro reply ⟨hnames⟩
      obtain ⟨f, hf, -, hname⟩ := hnames.settle_heard
      rw [ha] at hf
      exact ⟨f, Fault.store.inj (Except.error.inj hf), hname⟩
    cases e with
    | remote f =>
      by_cases hname : f.exception = Remote.fileNotFound
      · obtain ⟨x, rfl, -, hnames⟩ := Remote.settle_heard_eq_remote ha
        rw [rooted, if_neg (not_not_intro hname)]
        exact .excused trivial (.absentRoot (hname ▸ hnames))
      · rw [rooted, if_pos hname]
        refine .refused (not_accepts (Remote.not_granted _ ha) fun reply hreply => ?_)
        obtain ⟨f', hf, hname'⟩ := hexcuse reply hreply
        exact hname (StoreError.remote.inj hf ▸ hname')
    | _ =>
      refine .refused (not_accepts (Remote.not_granted _ ha) fun reply hreply => ?_)
      obtain ⟨f', hf, -⟩ := hexcuse reply hreply
      cases hf
  · obtain ⟨rfl, hsuccess⟩ := Remote.settle_heard_eq_ok.mp ha
    exact .returned trivial (by simp [Granted, hsuccess, Command.Needs])

/-- What a head tells of a status. -/
def headOf (key : String) (s : FileStatus) : Except Fault Blob.Head :=
  match s.lastModified with
  | .ok t => .ok ⟨key, s.length, some (Moment.ofInstant t), s.isDirectory⟩
  | .error e => .error (.time e)

/-- A head is one question, log records aside. -/
theorem silent_head (key : String) :
    (b.head key).run.silent = .ask { operation := .getFileStatus, path := b.path key } fun answer =>
      .done ((settle false answer >>= fun response => response.decode Payload.status) >>= headOf key) := by
  rw [head, silent_observed, silent_run_bind, Remote.silent_fetch]
  refine congrArg (Dialogue.ask (P := Remote.protocol) _) (funext fun answer => ?_)
  show after _ (settle false answer >>= fun response => response.decode Payload.status) = _
  rcases settle false answer >>= fun response => response.decode Payload.status with fault | s
  · rfl
  · show (lastModified s >>= _ : Call Blob.Head).run.silent = .done (headOf key s)
    rw [lastModified, headOf]
    cases s.lastModified <;> rfl

theorem says_head {r : Except Fault Blob.Head} :
    Says (b.head key) xs r ↔
      ∃ a, xs = [⟨{ operation := .getFileStatus, path := b.path key }, a⟩] ∧
        r = (fetched Payload.status false a >>= headOf key) :=
  Remote.says_of_silent_eq (f := fun answer =>
    (settle false answer >>= fun response => response.decode Payload.status) >>= headOf key) (silent_head key)

theorem ending_head (h : Says (b.perform (.head key)) xs r) : Ending b (.head key) xs r := by
  obtain ⟨r', hhead, rfl⟩ := Remote.says_map.mp h
  obtain ⟨a, rfl, rfl⟩ := says_head.mp hhead
  cases ha : fetched Payload.status false a with
  | error fault =>
    obtain ⟨e, rfl⟩ := Remote.fetched_eq_error ha
    have hstrict : (Command.head key).Strict := trivial
    refine .refused (not_accepts ?_ (hstrict.not_excuses _))
    rintro ⟨response, hresponse, hsuccess, s, hs⟩
    rw [Remote.fetched_eq_ok.mpr ⟨response, hresponse, hsuccess, hs⟩] at ha
    cases ha
  | ok s =>
    have hgranted := Remote.fetched_eq_ok.mp ha
    show Ending b (.head key) _ ((headOf key s).map Reply.head)
    rw [headOf]
    cases hs : s.lastModified with
    | ok t =>
      obtain ⟨response, rfl, hsuccess, hdecoded⟩ := hgranted
      exact .returned trivial (List.forall_mem_singleton.mpr ⟨response, rfl, hsuccess, s, hdecoded⟩)
    | error e => exact .untimely (List.mem_singleton_self _) hgranted hs

theorem objection?_eq_none_iff {o : ListOptions} : o.objection? = none ↔ (Command.list o).Admissible b := by
  obtain ⟨root, delimiter, continuationToken, startAfter, maxKeys⟩ := o
  cases delimiter <;> cases continuationToken <;> cases startAfter <;>
    simp [ListOptions.objection?, Command.Admissible]

theorem ending_list {o : ListOptions} (h : Says (b.perform (.list o)) xs r) : Ending b (.list o) xs r := by
  cases ho : o.objection? with
  | some why =>
    have hfail :
        (b.list o).run.silent = .done (.error (.store (.final .notSupported why (.text o.root)))) := by
      rw [list, silent_observed, ho]; rfl
    rw [eq_error_of_silent h hfail]
    refine .objected fun hadmissible => ?_
    rw [objection?_eq_none_iff.mpr hadmissible] at ho
    cases ho
  | none =>
    obtain ⟨r', hlist, rfl⟩ := Remote.says_map.mp h
    have hadmissible := (objection?_eq_none_iff (b := b)).mp ho
    obtain ⟨rows, budget, hwalk, rfl⟩ := (b.runs_list ho).mp hlist
    rcases Listing.walked_or_missing hwalk with ⟨hwalked, hfirst⟩ | ⟨x, fault, rfl, hx, hmissing, rfl⟩
    · cases hwalked with
      | ended rows hclear =>
        refine .returned hadmissible fun x hx => ?_
        obtain ⟨statuses, hstatuses⟩ := hclear x hx
        obtain ⟨response, hresponse, hsuccess, hdecoded⟩ := Remote.fetched_eq_ok.mp hstatuses
        exact ⟨response, hresponse, hsuccess, statuses, hdecoded⟩
      | @refused before x fault hclear hx =>
        obtain ⟨e, rfl⟩ := Remote.fetched_eq_error hx
        refine .refused ?_
        rintro (hgood | ⟨reply, hreply⟩)
        · obtain ⟨response, hresponse, hsuccess, statuses, hdecoded⟩ := hgood x.answer (by simp)
          rw [Listing.listed, Remote.fetched_eq_ok.mpr ⟨response, hresponse, hsuccess, hdecoded⟩] at hx
          cases hx
        · -- only a walk that is told nothing else is excused, and that its path is missing is not passed on
          generalize hanswers : (before ++ [x]).map Exchange.answer = answers at hreply
          cases hreply with
          | @absentDirectory _ response h404 =>
            obtain rfl : before = [] := by simpa using congrArg List.length hanswers
            have hmissing := (Remote.isMissing_fetched hx).mpr ⟨response, by simpa using hanswers, h404⟩
            rw [hfirst x _ rfl hx] at hmissing
            cases hmissing
      | untimely hclear hs he =>
        obtain ⟨x, hx, statuses, hstatuses, hmem⟩ := hs.resolve_left id
        exact .untimely hx ⟨statuses, Remote.fetched_eq_ok.mp hstatuses, hmem⟩ he
      | unfinished hclear hlimit => exact .unfinished (by omega)
    · obtain ⟨response, hresponse, h404⟩ := (Remote.isMissing_fetched hx).mp hmissing
      refine .excused hadmissible ?_
      rw [List.map_singleton, hresponse]
      exact .absentDirectory h404

theorem ending_addPart {h : Handle} {body : Blob.Content} {size : Int}
    (hs : Says (b.perform (.addPart h body size)) xs r) : Ending b (.addPart h body size) xs r := by
  cases h with
  | other type =>
    rw [eq_error_of_silent hs (silent_observed _ _ _)]
    exact .foreign rfl
  | upload u =>
    obtain ⟨r', hadd, rfl⟩ := Remote.says_map.mp hs
    cases Upload.runs_addPart.mp hadd with
    | @answered _ _ hx hplain =>
      obtain ⟨a, rfl, rfl⟩ := hx
      rcases Upload.unprobed_heard (u := u) (a := a) with ⟨hr, hgood⟩ | ⟨e, hr, hbad⟩
      · rw [hr]
        exact .returned ⟨u, rfl⟩ (List.forall_mem_singleton.mpr hgood)
      · rw [hr]
        exact .refused (not_accepts hbad fun _ h => by cases h)
    | @probed _ _ f _ _ hx hrefuses hprobe =>
      obtain ⟨a, rfl, rfl⟩ := hx
      obtain ⟨p, rfl, rfl⟩ := hprobe
      obtain ⟨x, rfl, hstatus, hnames⟩ := Upload.refusesOffset_heard_iff.mp ⟨f, hrefuses⟩
      rcases Upload.probeOutcome_heard (f := f) (a := p) with ⟨hr, y, rfl, hy, -⟩ | ⟨e, hr, hbad⟩
      · rw [hr]
        exact .excused ⟨u, rfl⟩ (.landed hstatus hnames hy)
      · rw [hr]
        refine .refused ?_
        rintro (hgood | ⟨reply, hreply⟩)
        · obtain ⟨z, hz, hsuccess, -⟩ := hgood (.ok x) (by simp)
          cases hz
          rw [hnames.1] at hsuccess
          cases hsuccess
        · cases hreply with
          | landed _ _ hy => exact hbad ⟨_, rfl, hy, trivial⟩

theorem ending_commitUpload {h : Handle} (hs : Says (b.perform (.commitUpload h)) xs r) :
    Ending b (.commitUpload h) xs r := by
  cases h with
  | other type =>
    rw [eq_error_of_silent hs (silent_observed _ _ _)]
    exact .foreign rfl
  | upload u =>
    obtain ⟨r', hcommit, rfl⟩ := Remote.says_map.mp hs
    obtain ⟨_, ⟨a, rfl, rfl⟩, rfl⟩ := Upload.runs_commitUpload.mp hcommit
    rcases ha : settle false (heard a) with fault | response
    · have hmissing := Remote.isMissing_settle_heard ha
      obtain ⟨e, rfl⟩ := Remote.settle_heard_eq_error ha
      rw [Upload.committed, Upload.isMissing_eq]
      cases hm : Listing.isMissing (.store e) with
      | true =>
        obtain ⟨x, rfl, h404⟩ := hmissing.mp hm
        rw [if_pos rfl]
        exact .excused ⟨u, rfl⟩ (.absentFile h404)
      | false =>
        rw [if_neg Bool.false_ne_true]
        refine .refused (not_accepts (Remote.not_granted _ ha) fun reply hreply => ?_)
        cases hreply with
        | absentFile h404 =>
          rw [hmissing.mpr ⟨_, rfl, h404⟩] at hm
          cases hm
    · obtain ⟨rfl, hsuccess⟩ := Remote.settle_heard_eq_ok.mp ha
      exact .returned ⟨u, rfl⟩ (by simp [Granted, hsuccess, Command.Needs])

theorem ending_abortUpload {h : Handle} (hs : Says (b.perform (.abortUpload h)) xs r) :
    Ending b (.abortUpload h) xs r := by
  cases h with
  | other type =>
    rw [eq_error_of_silent hs (silent_observed _ _ _)]
    exact .foreign rfl
  | upload u =>
    exact ending_of_heeds hs ⟨u, rfl⟩ trivial
      (heeds_observed (heeds_bind (heeds_pure u) fun _ => heeds_bind heeds_execute fun _ => heeds_pure ()))

/-- However the remote answers, a command ends in one of these ways. -/
theorem ending (b : Backend) (c : Command) (hs : Says (b.perform c) xs r) : Ending b c xs r := by
  cases c with
  | probe key => exact ending_probe hs
  | head key => exact ending_head hs
  | list o => exact ending_list hs
  | delete key => exact ending_of_heeds hs trivial trivial (heeds_observed heeds_effect)
  | deleteAll keys => exact ending_of_heeds hs trivial trivial (heeds_observed heeds_deletions)
  | rename source destination => exact ending_of_heeds hs trivial trivial (heeds_observed heeds_effect)
  | copy source destination =>
    rw [eq_error_of_silent hs (silent_observed _ _ _)]
    exact .objected id
  | get key o =>
    exact ending_of_heeds hs trivial trivial (heeds_observed (heeds_bind heeds_execute fun _ => heeds_pure _))
  | put key body isDirectory =>
    cases isDirectory with
    | true => exact ending_of_heeds hs trivial trivial (heeds_observed heeds_effect)
    | false =>
      exact ending_of_heeds hs trivial trivial
        (heeds_observed (heeds_bind heeds_execute fun _ => heeds_pure ()))
  | beginUpload key =>
    exact ending_of_heeds hs trivial trivial
      (heeds_observed (heeds_bind heeds_serial fun _ => heeds_bind heeds_execute fun _ => heeds_pure _))
  | addPart h body size => exact ending_addPart hs
  | commitUpload h => exact ending_commitUpload hs
  | abortUpload h => exact ending_abortUpload hs
  | expireUploads =>
    rw [eq_error_of_silent hs rfl]
    exact .objected id
  | makeContainer => exact ending_requireBucket hs Iff.rfl trivial heeds_effect
  | removeContainer => exact ending_requireBucket hs Iff.rfl trivial heeds_effect

/-! ### No failure is passed over, and none is of an unknown kind -/

theorem not_admissible_of_foreign {type : String} (h : c.handle? = some (.other type)) :
    ¬ c.Admissible b := by
  cases c with
  | addPart handle body size =>
    rintro ⟨u, rfl⟩
    cases h
  | commitUpload handle | abortUpload handle =>
    rintro ⟨u, rfl⟩
    cases h
  | _ => cases h

/-- A command that returns was given arguments that it takes, and no answer failed it unless it has an
excuse for all of them. The other way round, with such arguments and such answers a command returns, unless
it is told of a time that is no instant, or is a listing of more directories than it may enter. -/
theorem returns_of_accepts (h : Says (b.perform c) xs r) :
    (∀ reply, r = .ok reply → c.Admissible b ∧
      ((∀ x ∈ xs, Granted c.Needs x.answer) ∨ c.Excuses (xs.map Exchange.answer) reply)) ∧
    (c.Admissible b → c.Accepts (xs.map Exchange.answer) →
      (∃ reply, r = .ok reply) ∨
        (∃ x ∈ xs, ∃ s e, c.Reports x.answer s ∧ s.lastModified = .error e ∧ r = .error (.time e)) ∨
        b.reach < xs.length ∧ r = .error .unfinished) := by
  cases ending b c h with
  | returned hc hgood =>
    exact ⟨fun _ _ => ⟨hc, .inl hgood⟩, fun _ _ => .inl ⟨_, rfl⟩⟩
  | excused hc hx =>
    refine ⟨?_, fun _ _ => .inl ⟨_, rfl⟩⟩
    rintro _ ⟨⟩
    exact ⟨hc, .inr hx⟩
  | objected hc => exact ⟨by simp, fun hadmissible => absurd hadmissible hc⟩
  | refused hbad => exact ⟨by simp, fun _ haccepts => absurd haccepts hbad⟩
  | foreign hh => exact ⟨by simp, fun hadmissible => absurd hadmissible (not_admissible_of_foreign hh)⟩
  | untimely hx hs he => exact ⟨by simp, fun _ _ => .inr (.inl ⟨_, hx, _, _, hs, he, rfl⟩)⟩
  | unfinished hreach => exact ⟨by simp, fun _ _ => .inr (.inr ⟨hreach, rfl⟩)⟩

/-- A part that was refused for its offset, and that the probe finds in the file. -/
theorem returns_of_accepts_landed :
    ∃ (c : Command) (xs : List Exchange), Says (perform ⟨{ endpoint := "a.b" }, 0⟩ c) xs (.ok .done) ∧
      xs.map Exchange.answer = [.ok Upload.offsetRefusal, .ok { operation := .append, status := 200 }] ∧
      c.Admissible ⟨{ endpoint := "a.b" }, 0⟩ ∧ c.Excuses (xs.map Exchange.answer) .done := by
  obtain ⟨f, hf⟩ := Upload.refusesOffset_heard_iff.mpr ⟨_, rfl, rfl, Upload.names_offsetRefusal⟩
  have hadd :
      Upload.Adds Remote.scripted { key := "k", remotePath := "k", lease := "l" } (.whole [97]) 1 _ _ [] :=
    .probed ⟨.ok Upload.offsetRefusal, rfl, rfl⟩ hf ⟨.ok { operation := .append, status := 200 }, rfl, rfl⟩
  have hs : Says (perform ⟨{ endpoint := "a.b" }, 0⟩
      (.addPart (.upload { key := "k", remotePath := "k", lease := "l" }) (.whole [97]) 1)) _ (.ok .done) :=
    Remote.says_map.mpr ⟨_, Upload.runs_addPart.mpr hadd, rfl⟩
  obtain ⟨hc, hgood | hx⟩ := (returns_of_accepts hs).1 _ rfl
  · obtain ⟨r, hr, hsuccess, -⟩ := hgood _ List.mem_cons_self
    cases hr
    cases hsuccess
  · exact ⟨_, _, hs, rfl, hc, hx⟩

/-- A command that fails does so with an error of the store, or because its handle is none of this backend,
or, if it is a head or a listing, with a time that it was told and that is no instant. -/
theorem fails_within_taxonomy (h : Says (b.perform c) xs r) :
    (∃ reply, r = .ok reply) ∨ (∃ e, r = .error (.store e)) ∨
      (∃ type, c.handle? = some (.other type) ∧ r = .error (.handle type)) ∨
      (∃ x ∈ xs, ∃ s e, c.Reports x.answer s ∧ s.lastModified = .error e ∧ r = .error (.time e)) ∨
      b.reach < xs.length ∧ r = .error .unfinished := by
  cases ending b c h with
  | returned _ _ => exact .inl ⟨_, rfl⟩
  | excused _ _ => exact .inl ⟨_, rfl⟩
  | objected _ => exact .inr (.inl ⟨_, rfl⟩)
  | refused _ => exact .inr (.inl ⟨_, rfl⟩)
  | foreign hh => exact .inr (.inr (.inl ⟨_, hh, rfl⟩))
  | untimely hx hs he => exact .inr (.inr (.inr (.inl ⟨_, hx, _, _, hs, he, rfl⟩)))
  | unfinished hreach => exact .inr (.inr (.inr (.inr ⟨hreach, rfl⟩)))

/-- A success whose body breaks off. -/
def torn : Response where
  operation := .getFileStatus
  status := 200
  body := [123]

/-- A head with such an answer fails with an error of the store. -/
theorem fails_within_taxonomy_torn :
    ∃ xs fault, Says (perform ⟨{ endpoint := "a.b" }, 0⟩ (.head "k")) xs (.error fault) ∧
      xs.map Exchange.answer = [.ok torn] ∧ ∃ e, fault = .store e := by
  have hbody : Payload.decode? Payload.status torn.body = none := by decide +kernel
  obtain ⟨e, he⟩ : ∃ e, fetched Payload.status false (.ok torn) = .error (.store e) := by
    rw [fetched, Remote.settle_heard_eq_ok.mpr ⟨rfl, rfl⟩]
    show ∃ e, torn.decode Payload.status = .error (.store e)
    rw [Response.decode, hbody]
    exact ⟨_, rfl⟩
  have hs : Says (perform ⟨{ endpoint := "a.b" }, 0⟩ (.head "k")) _ (.error (.store e)) :=
    Remote.says_map.mpr ⟨_, says_head.mpr ⟨.ok torn, rfl, rfl⟩, by rw [he]; rfl⟩
  refine ⟨_, _, hs, rfl, ?_⟩
  rcases fails_within_taxonomy hs with ⟨_, hr⟩ | ⟨e, hr⟩ | ⟨_, hh, -⟩ | ⟨_, -, _, _, -, -, hr⟩ | ⟨-, hr⟩
  · cases hr
  · exact ⟨e, Except.error.inj hr⟩
  · cases hh
  · cases hr
  · cases hr

/-- The status of a file that was changed when the year 10000 began. -/
def farFuture : Response where
  operation := .getFileStatus
  status := 200
  body := Utf8.encode "\x7b\"FileStatus\":\x7b\"modificationTime\":253402300800000\x7d\x7d"

/-- A head that is answered with success and with a status, and fails with what is no error of the store. -/
theorem head_farFuture :
    ∃ xs e, Says (perform ⟨{ endpoint := "a.b" }, 0⟩ (.head "k")) xs (.error (.time e)) ∧
      xs.map Exchange.answer = [.ok farFuture] ∧ (Command.head "k").handle? = none := by
  have hdecoded :
      fetched Payload.status false (.ok farFuture) = .ok { modificationTime := 253402300800000 } :=
    Remote.fetched_eq_ok.mpr ⟨farFuture, rfl, rfl, by decide +kernel⟩
  have htime : FileStatus.lastModified { modificationTime := 253402300800000 } = .error (.year 10000) := by
    decide +kernel
  have hhead : headOf "k" { modificationTime := 253402300800000 } = .error (.time (.year 10000)) := by
    rw [headOf, htime]
  refine ⟨_, .year 10000, Remote.says_map.mpr ⟨_, says_head.mpr ⟨.ok farFuture, rfl, rfl⟩, ?_⟩, rfl, rfl⟩
  rw [hdecoded]
  show Except.error _ = (headOf "k" _).map Reply.head
  rw [hhead]; rfl

end LakeStore.Backend
