import LakeStore.Proofs.Repeating

/-!
The ways from a status to a number agree.

A failure is classified by its status alone, or by its body; the structured error of a body can be collapsed
to the error of its status, and has a number of its own. All of it goes by one table of statuses, and
whichever way is taken, the number is the same. A status that is not in the table is recorded wherever an
error is made of it, and a body that cannot be read where it is read; nothing else is.
-/

namespace LakeStore

namespace Dialogue

variable {P : Protocol} {α β : Type}

/-- A dialogue that asks nothing and draws no number: it writes these records, and ends with this value. -/
def Tells : Dialogue P α → List Log.Note → α → Prop
  | .done a, notes, b => notes = [] ∧ a = b
  | .note n next, notes, b => ∃ rest, notes = n :: rest ∧ Tells next rest b
  | .ask _ _, _, _ | .draw _, _, _ => False

variable {d : Dialogue P α} {notes : List Log.Note} {a : α}

theorem tells_pure (a : α) : Tells (pure a : Dialogue P α) [] a := ⟨rfl, rfl⟩

theorem tells_log (n : Log.Note) : Tells (log n : Dialogue P Unit) [n] () := ⟨[], rfl, rfl, rfl⟩

/-- One dialogue after the other: their records follow each other. -/
theorem Tells.bind {f : α → Dialogue P β} {more : List Log.Note} {b : β} (hd : Tells d notes a)
    (hf : Tells (f a) more b) : Tells (d >>= f) (notes ++ more) b := by
  induction d generalizing notes with
  | done c =>
    obtain ⟨rfl, rfl⟩ := hd
    exact hf
  | note n next ih =>
    obtain ⟨rest, rfl, hnext⟩ := hd
    exact ⟨rest ++ more, rfl, ih hnext⟩
  | ask q next ih => exact hd.elim
  | draw next ih => exact hd.elim

theorem Tells.map {b : β} {f : α → Dialogue P β} (hd : Tells d notes a) (hf : f a = pure b) :
    Tells (d >>= f) notes b := by
  rw [← List.append_nil notes]
  exact hd.bind (hf ▸ tells_pure b)

end Dialogue

namespace Status

/-- The statuses that stand for an error. -/
def known : List Int := [400, 401, 403, 404, 405, 409, 429, 500]

theorem error?_eq_none_iff {status : Int} {message : String} : error? status message = none ↔
    status ∉ known := by
  rw [error?, known]
  split_ifs <;> simp <;> omega

/-- The number of an error that is made of a status does not depend on its words. -/
theorem errno_getD (status : Int) (message message' words words' : String) :
    ((error? status message).getD (.final .invalidArgument words .null)).errno =
      ((error? status message').getD (.final .invalidArgument words' .null)).errno := by
  rw [error?, error?]
  split_ifs <;> rfl

end Status

namespace Remote.Classification

open Dialogue

variable {P : Protocol}

/-- What a record says of the exchange that it is about. -/
def exchangeFields (r : Response) : List (String × Value) :=
  [("remote_op", .text r.operation.name), ("remote_url", .text r.url),
    ("request_id", r.requestId.elim .null .text), ("status_code", .int r.status),
    ("response_id", r.responseId.elim .null .text)]

/-- The records of a status: one, if it stands for no error. -/
def surprise (r : Response) : List Log.Note :=
  if r.status ∈ Status.known then []
  else [{ source := .classifier, level := .error, message := "unexpected adl response",
          fields := exchangeFields r }]

/-- The record of a body that cannot be read. -/
def unreadable (r : Response) : Log.Note where
  source := .classifier
  level := .error
  message := "cannot parse error: <ValidationError>"
  fields := exchangeFields r

theorem fields_correlation (r : Response) : r.correlation.fields = exchangeFields r := by
  rw [Correlation.fields, exchangeFields, Response.correlation]
  cases r.requestId <;> cases r.responseId <;> rfl

theorem tells_byStatus (r : Response) :
    Tells (byStatus r.correlation : Dialogue P StoreError) (surprise r) (statusError r.correlation) := by
  have hstatus : r.correlation.status = r.status := rfl
  rw [byStatus, statusError, surprise, hstatus]
  cases herror :
    Status.error? r.status ("HTTP " ++ toString r.status ++ " for " ++ r.correlation.operation.name) with
  | some e =>
    have hknown : r.status ∈ Status.known := by
      by_contra hno
      rw [Status.error?_eq_none_iff.mpr hno] at herror
      cases herror
    rw [if_pos hknown]
    exact tells_pure e
  | none =>
    rw [if_neg (Status.error?_eq_none_iff.mp herror), ← fields_correlation]
    exact (tells_log _).map rfl

theorem tells_byBody_some {r : Response} {d : Description}
    (hd : Payload.decode? Payload.description r.body = some d) :
    Tells (byBody r : Dialogue P StoreError) [] (.remote (described r.correlation d)) := by
  rw [byBody, hd]
  exact tells_pure _

theorem tells_byBody_none {r : Response} (hd : Payload.decode? Payload.description r.body = none) :
    Tells (byBody r : Dialogue P StoreError) [unreadable r]
      (.temporary .transient ("cannot parse error body for HTTP " ++ toString r.status) .null
        (some .undecodable)) := by
  rw [byBody, hd, unreadable, ← fields_correlation]
  exact (tells_log _).map rfl

theorem tells_ofResponse {r : Response} (hr : r.isSuccess = false) {structured : Bool} {notes : List Log.Note}
    {e : StoreError}
    (h : Tells (if structured then byBody r else byStatus r.correlation : Dialogue P StoreError) notes e) :
    Tells (ofResponse r structured : Dialogue P (Option StoreError)) notes (some e) := by
  rw [ofResponse, hr, if_neg Bool.false_ne_true]
  cases structured with
  | false => exact h.map rfl
  | true => exact h.map rfl

/-- However a failure with a status outside of 200 to 299 is classified, its number is the same: by its
status, by a body that describes it, and by what the described error collapses to, whether that still knows
its exchange or not. A body that describes nothing makes an error that may pass. One record of the exchange
is written wherever an error is made of a status that stands for none, one where a body cannot be read, and
no others. -/
theorem classifications_agree (r : Response) (hr : ¬ (200 ≤ r.status ∧ r.status < 300)) :
    Tells (ofResponse r false : Dialogue P (Option StoreError)) (surprise r)
      (some (statusError r.correlation)) ∧
      (statusError r.correlation).kindErrno = (statusError r.correlation).errno ∧
      (∀ d, Payload.decode? Payload.description r.body = some d →
        ∃ f, Tells (ofResponse r true : Dialogue P (Option StoreError)) [] (some (.remote f)) ∧
          f.origin = some r.correlation ∧ (StoreError.remote f).errno = (statusError r.correlation).errno ∧
          (StoreError.remote { f with origin := none }).errno = (statusError r.correlation).errno ∧
          Tells (remap f : Dialogue P StoreError) (surprise r) (statusError r.correlation) ∧
          ∃ e, Tells (remap { f with origin := none } : Dialogue P StoreError) [] e ∧
            e.errno = (statusError r.correlation).errno) ∧
      (Payload.decode? Payload.description r.body = none →
        ∃ message, Tells (ofResponse r true : Dialogue P (Option StoreError)) [unreadable r]
          (some (.temporary .transient message .null (some .undecodable)))) := by
  have hfailed : r.isSuccess = false := by
    rw [Response.isSuccess, ← Bool.not_eq_true, Bool.and_eq_true, decide_eq_true_iff, decide_eq_true_iff]
    exact hr
  have hnumber (f : RemoteFailure) (hf : f.status = r.status) :
      (StoreError.remote f).errno = (statusError r.correlation).errno := by
    rw [StoreError.errno_remote, hf]
    exact Status.errno_getD _ _ _ _ _
  refine ⟨tells_ofResponse hfailed (tells_byStatus _),
    (StoreError.errno_eq_kindErrno fun f => Status.getD_ne_remote).symm, fun d hd => ?_,
    fun hd => ⟨_, tells_ofResponse hfailed (tells_byBody_none hd)⟩⟩
  exact ⟨described r.correlation d, tells_ofResponse hfailed (tells_byBody_some hd), rfl, hnumber _ rfl,
    hnumber _ rfl, tells_byStatus _, _, tells_pure _, Status.errno_getD _ _ _ _ _⟩

/-- An answer to an append. -/
def reply (status : Int) (body : Bytes) : Response where
  operation := .append
  url := "https://a.b/webhdfs/v1/f"
  requestId := some "q-1"
  status := status
  body := body

/-- A body that describes a failure by a name. -/
def leaseLost : Bytes := Utf8.encode "\x7b\"RemoteException\":\x7b\"exception\":\"LeaseException\"\x7d\x7d"

/-- What a record says of such an answer. -/
def replyFields (status : Int) : List (String × Value) :=
  [("remote_op", .text "APPEND"), ("remote_url", .text "https://a.b/webhdfs/v1/f"),
    ("request_id", .text "q-1"), ("status_code", .int status), ("response_id", .null)]

/-- A conflict that its body describes by a name: the caller is told to try again, whichever way is taken. A
status that stands for no error is recorded where an error is made of it, and a body that cannot be read
where it is read. -/
theorem classifications_agree_conflict :
    (∀ status notes number, (status, notes, number) ∈ [(409, [], Errno.interrupted),
        (418, [⟨.classifier, .error, "unexpected adl response", replyFields 418, []⟩], Errno.invalid)] →
      ∃ e f, Tells (ofResponse (reply status leaseLost) false : Dialogue protocol (Option StoreError))
        notes (some e) ∧
        e.errno = number ∧
        Tells (ofResponse (reply status leaseLost) true : Dialogue protocol (Option StoreError)) []
          (some (.remote f)) ∧
        (StoreError.remote f).errno = number ∧ Tells (remap f : Dialogue protocol StoreError) notes e) ∧
    ∃ message, Tells (ofResponse (reply 418 []) true : Dialogue protocol (Option StoreError))
      [⟨.classifier, .error, "cannot parse error: <ValidationError>", replyFields 418, []⟩]
      (some (.temporary .transient message .null (some .undecodable))) := by
  have hbody (status : Int) (body : Bytes) : (reply status body).body = body := rfl
  have hfields (status : Int) (body : Bytes) : exchangeFields (reply status body) = replyFields status := rfl
  constructor
  · intro status notes number hcase
    have hd : Payload.decode? Payload.description (reply status leaseLost).body =
        some { exception := "LeaseException" } := by
      rw [hbody]; decide +kernel
    have hstatus : ¬ (200 ≤ (reply status leaseLost).status ∧ (reply status leaseLost).status < 300) ∧
        surprise (reply status leaseLost) = notes ∧
        (statusError (reply status leaseLost).correlation).errno = number := by
      simp only [List.mem_cons, Prod.mk.injEq, List.not_mem_nil, or_false] at hcase
      rw [surprise, statusError, Response.correlation, hfields, reply]
      rcases hcase with ⟨rfl, rfl, rfl⟩ | ⟨rfl, rfl, rfl⟩
      · exact ⟨by decide, rfl, rfl⟩
      · exact ⟨by decide, rfl, rfl⟩
    obtain ⟨hr, rfl, rfl⟩ := hstatus
    -- the answer is kept closed, so that nothing evaluates what is said of it
    generalize reply status leaseLost = r at *
    obtain ⟨hplain, -, hdescribed, -⟩ := classifications_agree (P := protocol) r hr
    obtain ⟨f, hstructured, -, hnumber, -, hcollapsed, -⟩ := hdescribed _ hd
    exact ⟨_, f, hplain, rfl, hstructured, hnumber, hcollapsed⟩
  · have hd : Payload.decode? Payload.description (reply 418 []).body = none := by rw [hbody]; decide +kernel
    have hunreadable : unreadable (reply 418 []) =
        ⟨.classifier, .error, "cannot parse error: <ValidationError>", replyFields 418, []⟩ := by
      rw [unreadable, hfields]
    rw [← hunreadable]
    exact (classifications_agree (P := protocol) (reply 418 []) (by decide)).2.2.2 hd

end Remote.Classification

end LakeStore
