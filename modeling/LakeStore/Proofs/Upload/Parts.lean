import LakeStore.Proofs.Transcript
import LakeStore.Proofs.Upload.Calls

/-!
The calls on the handle of an upload, exchange by exchange.

Whoever answers, a part is one exchange, and a second one exactly if the first is refused for its offset.
The other calls are one exchange each.
-/

namespace LakeStore.Upload

open Dialogue
open Remote (Request Response Granted settle heard)
open Remote.Classification (collapsed)

variable {σ : Type} {serves : Request → σ → Except Fault Response → σ → Prop} {s t : σ} {u : Upload}
  {body : Blob.Content} {size : Int} {r : Except Fault Unit} {answer : Except Fault Response}
    {f : RemoteFailure}

/-- The request that appends a part behind all parts that the handle has counted. -/
def partRequest (u : Upload) (body : Blob.Content) : Request := u.appendRequest (some u.size) .data body

/-- The request that closes the file where the handle ends. -/
def closeRequest (u : Upload) : Request := u.appendRequest (some u.size) .close

/-- An answer that refuses an append for its offset. -/
def RefusesOffset (answer : Except Fault Response) (f : RemoteFailure) : Prop :=
  settle true answer = .error (.store (.remote f)) ∧ f.status = 400 ∧ f.exception = Remote.badOffset

/-- How a part ends whose append is not asked after. -/
def unprobed (u : Upload) : Except Fault Response → Except Fault Unit
  | .ok _ => .ok ()
  | .error (.store (.remote f)) => .error (if f.status = 404 then u.leaseLost f else .store (collapsed f))
  | .error fault => .error fault

theorem followed_of_refusesOffset (h : RefusesOffset answer f) :
    u.followed (settle true answer) =
      .ask u.closeRequest fun answer => .done (probeOutcome f (probed (settle false answer))) := by
  obtain ⟨hanswer, hstatus, hname⟩ := h
  rw [hanswer, followed, silent_refusal, if_neg (by rw [hstatus]; decide), if_pos ⟨hstatus, hname⟩]; rfl

theorem followed_of_not_refusesOffset (h : ∀ f, ¬ RefusesOffset answer f) :
    u.followed (settle true answer) = .done (u.unprobed (settle true answer)) := by
  unfold RefusesOffset at h
  rcases hanswer : settle true answer with fault | response
  · cases fault with
    | store e =>
      cases e with
      | remote f =>
        rw [followed, silent_refusal, if_neg fun hprobe => h f ⟨hanswer, hprobe⟩, unprobed]
        split <;> rfl
      | _ => rfl
    | _ => rfl
  · rfl

/-- How a call ends that passes on a part, and how it leaves who answers. -/
inductive Adds (serves : Request → σ → Except Fault Response → σ → Prop) (u : Upload) (body : Blob.Content)
    (size : Int) (s : σ) : Except Fault Unit → σ → Prop
  | answered {answer : Except Fault Response} {t : σ} : serves (u.partRequest body) s answer t →
      (∀ f, ¬ RefusesOffset answer f) → Adds serves u body size s (u.unprobed (settle true answer)) t
  | probed {answer probe : Except Fault Response} {f : RemoteFailure} {s' t : σ} :
      serves (u.partRequest body) s answer s' → RefusesOffset answer f →
      serves (u.extend size).closeRequest s' probe t →
      Adds serves u body size s (probeOutcome f (probed (settle false probe))) t

theorem silent_addPart (u : Upload) (body : Blob.Content) (size : Int) :
    (Backend.addPart (.upload u) body size).2.run.silent =
      .ask (u.partRequest body) fun answer => (u.extend size).followed (settle true answer) := by
  refine (Backend.silent_observed _ _ _).trans ((silent_appendLast _ _ _).trans ?_)
  rw [show (u.extend size).size - size = u.size from Int.add_sub_cancel ..]; rfl

theorem runs_addPart :
    Runs (P := Remote.protocol) serves (Backend.addPart (.upload u) body size).2.run s r t ↔
      Adds serves u body size s r t := by
  rw [← runs_silent, silent_addPart, runs_ask_iff]
  constructor
  · rintro ⟨answer, s', hserves, hrest⟩
    by_cases hf : ∃ f, RefusesOffset answer f
    · obtain ⟨f, hf⟩ := hf
      rw [followed_of_refusesOffset hf] at hrest
      obtain ⟨probe, t', hprobe, hdone⟩ := runs_ask_iff.mp hrest
      obtain ⟨rfl, rfl⟩ := runs_done_iff.mp hdone
      exact .probed hserves hf hprobe
    · rw [followed_of_not_refusesOffset (not_exists.mp hf)] at hrest
      obtain ⟨rfl, rfl⟩ := runs_done_iff.mp hrest
      exact .answered hserves (not_exists.mp hf)
  · rintro (⟨hserves, hf⟩ | ⟨hserves, hf, hprobe⟩)
    · refine ⟨_, _, hserves, ?_⟩
      rw [followed_of_not_refusesOffset hf]; exact .done _ _
    · refine ⟨_, _, hserves, ?_⟩
      rw [followed_of_refusesOffset hf]; exact .ask hprobe (.done _ _)

theorem runs_beginUpload {b : Backend} {key : String} {r : Except Fault Upload} :
    Runs (P := Remote.protocol) serves (b.beginUpload key).run s r t ↔
      ∃ serial answer,
        serves (createRequest b.account.filePermission (b.path key) (Identifier.numbered serial)) s answer t ∧
          r = (settle false answer).map fun _ =>
            { key, remotePath := b.path key, lease := Identifier.numbered serial } := by
  rw [← runs_silent, Backend.beginUpload, Backend.silent_observed, silent_start, runs_draw_iff]
  refine exists_congr fun serial => ?_
  rw [runs_ask_iff]
  constructor
  · rintro ⟨answer, s', hserves, hdone⟩
    obtain ⟨rfl, rfl⟩ := runs_done_iff.mp hdone
    exact ⟨answer, hserves, rfl⟩
  · rintro ⟨answer, hserves, rfl⟩
    exact ⟨answer, t, hserves, .done _ _⟩

/-- An upload that has begun has a fresh handle, and the creation of its file under its lease succeeded. -/
theorem begun_of_runs {b : Backend} {key : String}
    (h : Runs (P := Remote.protocol) serves (b.beginUpload key).run s (.ok u) t) :
    (∃ serial, u = { key, remotePath := b.path key, lease := Identifier.numbered serial }) ∧
      ∃ answer x, serves (createRequest b.account.filePermission (b.path key) u.lease) s answer t ∧
        settle false answer = .ok x := by
  obtain ⟨serial, answer, hserves, hr⟩ := runs_beginUpload.mp h
  cases hx : settle false answer with
  | error fault =>
    rw [hx] at hr
    cases hr
  | ok x =>
    rw [hx] at hr
    obtain rfl := Except.ok.inj hr
    exact ⟨⟨serial, rfl⟩, answer, x, hserves, hx⟩

theorem runs_commitUpload :
    Runs (P := Remote.protocol) serves (Backend.commitUpload (.upload u)).run s r t ↔
      ∃ answer, serves u.closeRequest s answer t ∧ r = committed (settle false answer) :=
  runs_of_silent_eq ((Backend.silent_observed _ _ _).trans (silent_commit u))

theorem runs_abortUpload :
    Runs (P := Remote.protocol) serves (Backend.abortUpload (.upload u)).run s r t ↔
      ∃ answer, serves (u.appendRequest none .close) s answer t ∧ r = (settle false answer).map fun _ => () :=
  runs_of_silent_eq ((Backend.silent_observed _ _ _).trans (silent_abort u))

theorem isMissing_eq (fault : Fault) : isMissing fault = Listing.isMissing fault := by
  cases fault with
  | store e => cases e <;> rfl
  | _ => rfl

/-! ### Parts one after the other -/

/-- A part that was passed on: the handle before the call, its arguments, and how the call ended. -/
structure Part where
  handle : Upload
  body : Blob.Content
  size : Int
  result : Except Fault Unit

/-- A caller passes on parts one after the other, whatever becomes of them. -/
inductive Passes (serves : Request → σ → Except Fault Response → σ → Prop) :
    Upload → σ → List Part → Upload → σ → Prop
  | nil {u : Upload} {s : σ} : Passes serves u s [] u s
  | cons {u v : Upload} {s s' t : σ} {body : Blob.Content} {size : Int} {r : Except Fault Unit}
      {parts : List Part} :
      Runs (P := Remote.protocol) serves (Backend.addPart (.upload u) body size).2.run s r s' →
      Passes serves (u.extend size) s' parts v t → Passes serves u s (⟨u, body, size, r⟩ :: parts) v t

/-! ### Answers as they come -/

variable {a : Except RequestFailure Response}

/-- A response that refuses an append for its offset: it has the status and the name of such a failure. -/
def RefusedForOffset (a : Except RequestFailure Response) : Prop :=
  ∃ x, a = .ok x ∧ x.status = 400 ∧ x.Names "BadOffsetException"

theorem refusesOffset_heard_iff : (∃ f, RefusesOffset (heard a) f) ↔ RefusedForOffset a := by
  constructor
  · rintro ⟨f, hf, hstatus, hname⟩
    obtain ⟨x, rfl, hx, hnames⟩ := Remote.settle_heard_eq_remote hf
    rw [hname] at hnames
    exact ⟨x, rfl, hx.trans hstatus, hnames⟩
  · rintro ⟨x, rfl, hx, hnames⟩
    obtain ⟨f, hf, hstatus, hname⟩ := hnames.settle_heard
    exact ⟨f, hf, hstatus.trans hx, hname⟩

/-- The failure that names a wrong offset. -/
def offsetRefusal : Response where
  operation := .append
  status := 400
  body := Utf8.encode "\x7b\"RemoteException\":\x7b\"exception\":\"BadOffsetException\"\x7d\x7d"

theorem names_offsetRefusal : offsetRefusal.Names Remote.badOffset :=
  ⟨rfl, { exception := "BadOffsetException" }, by decide +kernel, rfl⟩

/-- A part that is not asked after returns if its append succeeds, and fails with an error of the store
else. -/
theorem unprobed_heard :
    u.unprobed (settle true (heard a)) = .ok () ∧ Granted (fun _ => True) a ∨
      ∃ e, u.unprobed (settle true (heard a)) = .error (.store e) ∧ ¬ Granted (fun _ => True) a := by
  rcases ha : settle true (heard a) with fault | x
  · have hfail := Remote.not_granted (fun _ => True) ha
    obtain ⟨e, rfl⟩ := Remote.settle_heard_eq_error ha
    cases e with
    | remote f =>
      rw [unprobed]
      split
      · exact .inr ⟨_, rfl, hfail⟩
      · exact .inr ⟨_, rfl, hfail⟩
    | _ => exact .inr ⟨_, rfl, hfail⟩
  · obtain ⟨rfl, hx⟩ := Remote.settle_heard_eq_ok.mp ha
    exact .inl ⟨rfl, x, rfl, hx, trivial⟩

/-- A part that is asked after returns if the probe succeeds, and fails with an error of the store else. -/
theorem probeOutcome_heard :
    probeOutcome f (probed (settle false (heard a))) = .ok () ∧ Granted (fun _ => True) a ∨
      ∃ e, probeOutcome f (probed (settle false (heard a))) = .error (.store e) ∧
      ¬ Granted (fun _ => True) a := by
  rcases ha : settle false (heard a) with fault | x
  · have hfail := Remote.not_granted (fun _ => True) ha
    obtain ⟨e, rfl⟩ := Remote.settle_heard_eq_error ha
    exact .inr ⟨_, rfl, hfail⟩
  · obtain ⟨rfl, hx⟩ := Remote.settle_heard_eq_ok.mp ha
    exact .inl ⟨rfl, x, rfl, hx, trivial⟩

end LakeStore.Upload
