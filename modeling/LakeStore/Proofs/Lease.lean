import Mathlib
import LakeStore.Proofs.Exchange
import LakeStore.Upload

/-!
A remote on which a file is written under one lease at a time.

A creation empties a file and makes its own lease the current one. An append under another lease finds no
file, one whose offset is not the end of the file is misplaced, and any other one is applied; if it closes the
file, no lease is current any more. `serve` is this remote as a function on its files, and `Verdict.Tells`
says by which responses it lets its verdicts be known.
-/

namespace LakeStore.Lease

open Remote (Request Response SyncFlag settle)
open Remote.Classification (statusError bodyError described)

/-- A file: what is in it, the lease under which it can be appended to, and the lease of the creation that was
applied last. -/
structure File where
  content : Bytes
  lease : Option String
  origin : Option String
  deriving DecidableEq

/-- The files of a remote by their paths. -/
abbrev Files := String → Option File

/-- What becomes of a write. -/
inductive Verdict where
  | applied
  /-- There is no file, or the lease of the write is not the current one. -/
  | leaseless
  /-- The offset of the write is not the end of the file. -/
  | misplaced
  deriving DecidableEq

/-- A parameter of a request. -/
def param (name : String) (r : Request) : Option String := Entries.find? name r.params

/-- The bytes that a request carries. -/
def payload (r : Request) : Bytes := (r.content.map Blob.Content.bytes).getD []

/-- The file that a creation leaves behind. -/
def created (r : Request) : File := ⟨payload r, param "leaseid" r, param "leaseid" r⟩

namespace File

/-- What becomes of an append to a file. -/
def judge (f : File) (r : Request) : Verdict :=
  if f.lease = none ∨ param "leaseid" r ≠ f.lease then .leaseless
  else if ∀ s ∈ param "offset" r, s.toInt? = some (f.content.length : Int) then .applied
  else .misplaced

/-- A file after an append that was applied. -/
def append (f : File) (r : Request) : File :=
  { f with
    content := f.content ++ payload r
    lease := if param "syncFlag" r = some SyncFlag.close.name then none else f.lease }

end File

/-- What becomes of a request, and the files afterwards. Only creations, appends and deletions change
files. -/
def serve (r : Request) (files : Files) : Verdict × Files :=
  match r.operation with
  | .create => (.applied, Function.update files r.path (some (created r)))
  | .append =>
    match files r.path with
    | none => (.leaseless, files)
    | some f =>
      if f.judge r = .applied then (.applied, Function.update files r.path (some (f.append r)))
      else (f.judge r, files)
  | .delete => (.applied, Function.update files r.path none)
  | _ => (.applied, files)

/-- A response that lets a verdict be known. -/
def Verdict.Tells : Verdict → Response → Prop
  | .applied, r => r.isSuccess = true
  | .leaseless, r => r.status = 404
  | .misplaced, r =>
    r.status = 400 ∧
      ∃ d, Remote.Payload.decode? Remote.Payload.description r.body = some d ∧ d.exception = Remote.badOffset

/-! ### What verdicts come to -/

theorem settle_applied {r : Response} (h : Verdict.applied.Tells r) (structured : Bool) :
    settle structured (.ok r) = .ok r := by
  rw [settle, if_pos (show r.isSuccess = true from h)]

/-- A misplaced append fails under the name of its failure. -/
theorem settle_misplaced {r : Response} (h : Verdict.misplaced.Tells r) :
    ∃ f, settle true (.ok r) = .error (.store (.remote f)) ∧ f.status = 400 ∧
    f.exception = Remote.badOffset := by
  obtain ⟨hs, d, hd, he⟩ := h
  have hfail : r.isSuccess = false := by simp [Response.isSuccess, hs]
  refine ⟨described r.correlation d, ?_, hs, he⟩
  rw [settle, hfail, if_neg Bool.false_ne_true, if_pos rfl, bodyError, hd]

theorem settle_misplaced_plain {r : Response} (h : Verdict.misplaced.Tells r) :
    settle false (.ok r) = .error (.store (statusError r.correlation)) := by
  have hfail : r.isSuccess = false := by simp [Response.isSuccess, h.1]
  rw [settle, hfail, if_neg Bool.false_ne_true, if_neg Bool.false_ne_true]

/-! ### The requests of an upload -/

section Requests

variable (u : Upload) (offset : Option Int) (flag : SyncFlag) (body : Blob.Content) (f : File)

theorem created_createRequest (permission path lease : String) :
    created (Upload.createRequest permission path lease) = ⟨[], some lease, some lease⟩ := by
  simp [created, payload, param, Upload.createRequest, Entries.find?, Blob.Content.bytes]

theorem param_leaseid : param "leaseid" (u.appendRequest offset flag body) = some u.lease := by
  cases offset <;> simp [param, Upload.appendRequest, Entries.find?]

theorem param_syncFlag : param "syncFlag" (u.appendRequest offset flag body) = some flag.name := by
  cases offset <;> simp [param, Upload.appendRequest, Entries.find?]

theorem param_offset : param "offset" (u.appendRequest offset flag body) = offset.map toString := by
  cases offset <;> simp [param, Upload.appendRequest, Entries.find?]

theorem payload_appendRequest : payload (u.appendRequest offset flag body) = body.bytes := rfl

theorem closes_iff :
    param "syncFlag" (u.appendRequest offset flag body) = some SyncFlag.close.name ↔ flag = .close := by
  rw [param_syncFlag]
  cases flag <;> simp [SyncFlag.name]

theorem judge_appendRequest :
    f.judge (u.appendRequest offset flag body) =
      if f.lease ≠ some u.lease then .leaseless
      else if ∀ n ∈ offset, n = f.content.length then .applied else .misplaced := by
  rw [File.judge, param_leaseid, param_offset]
  by_cases hl : f.lease = some u.lease
  · rw [if_neg (by rw [hl]; simp), if_neg (not_not_intro hl)]
    have hplace : (∀ s ∈ offset.map toString, s.toInt? = some (f.content.length : Int)) ↔
        ∀ n ∈ offset, n = f.content.length := by
      cases offset with
      | none => simp
      | some n =>
        have hn : (toString n).toInt? = some n := Int.toInt?_repr n
        rw [Option.map_some]; simp only [Option.mem_some_iff, hn, Option.some.injEq, forall_eq']
    simp only [hplace]
  · rw [if_pos (.inr fun h => hl h.symm), if_pos hl]

/-- The file behind an append that was applied. -/
def File.grown (f : File) (bytes : Bytes) (flag : SyncFlag) : File :=
  { f with content := f.content ++ bytes, lease := if flag = .close then none else f.lease }

theorem append_appendRequest : f.append (u.appendRequest offset flag body) = f.grown body.bytes flag := by
  simp only [File.append, File.grown, closes_iff, payload_appendRequest]

variable {f} {files : Files}

theorem serve_createRequest (permission path lease : String) :
    serve (Upload.createRequest permission path lease) files =
      (.applied, Function.update files path (some ⟨[], some lease, some lease⟩)) := by
  rw [← created_createRequest permission path lease]; rfl

/-- What an append does to a file that is there. -/
theorem serve_appendRequest (hf : files u.remotePath = some f) :
    serve (u.appendRequest offset flag body) files =
      if f.lease ≠ some u.lease then (.leaseless, files)
      else if ∀ n ∈ offset, n = f.content.length then
        (.applied, Function.update files u.remotePath (some (f.grown body.bytes flag)))
      else (.misplaced, files) := by
  have hserve : serve (u.appendRequest offset flag body) files =
      if f.judge (u.appendRequest offset flag body) = .applied then
        (.applied, Function.update files u.remotePath (some (f.append (u.appendRequest offset flag body))))
      else (f.judge (u.appendRequest offset flag body), files) := by
    show (match files u.remotePath with | none => _ | some f => _) = _
    rw [hf]; rfl
  rw [hserve, judge_appendRequest, append_appendRequest]
  by_cases hl : f.lease = some u.lease
  · by_cases hn : ∀ n ∈ offset, n = f.content.length
    · rw [if_neg (not_not_intro hl), if_pos hn, if_pos rfl, if_neg (not_not_intro hl), if_pos hn]
    · rw [if_neg (not_not_intro hl), if_neg hn, if_neg (by decide), if_neg (not_not_intro hl), if_neg hn]
  · rw [if_pos hl, if_neg (by decide), if_pos hl]

/-- An append under the current lease that goes to the end of the file is applied. -/
theorem serve_applied (hf : files u.remotePath = some f) (hl : f.lease = some u.lease)
    (hn : ∀ n ∈ offset, n = f.content.length) :
    serve (u.appendRequest offset flag body) files =
      (.applied, Function.update files u.remotePath (some (f.grown body.bytes flag))) := by
  rw [serve_appendRequest u offset flag body hf, if_neg (not_not_intro hl), if_pos hn]

/-- One that goes elsewhere changes nothing. -/
theorem serve_misplaced (hf : files u.remotePath = some f) (hl : f.lease = some u.lease)
    (hn : ¬ ∀ n ∈ offset, n = f.content.length) :
    serve (u.appendRequest offset flag body) files = (.misplaced, files) := by
  rw [serve_appendRequest u offset flag body hf, if_neg (not_not_intro hl), if_neg hn]

/-- An append leaves all files as they are, unless one is there under its lease and ends at its offset. -/
theorem serve_appendRequest_cases (u : Upload) (offset : Option Int) (flag : SyncFlag) (body : Blob.Content)
    (files : Files) :
    (serve (u.appendRequest offset flag body) files).2 = files ∨
      ∃ f, files u.remotePath = some f ∧ f.lease = some u.lease ∧ (∀ n ∈ offset, n = f.content.length) ∧
        (serve (u.appendRequest offset flag body) files).2 =
          Function.update files u.remotePath (some (f.grown body.bytes flag)) := by
  rcases hf : files u.remotePath with _ | f
  · left
    show (match files u.remotePath with | none => (Verdict.leaseless, files) | some f => _).2 = files
    rw [hf]
  · rw [serve_appendRequest u offset flag body hf]
    by_cases hl : f.lease = some u.lease
    · by_cases hn : ∀ n ∈ offset, n = f.content.length
      · exact .inr ⟨f, rfl, hl, hn, by rw [if_neg (not_not_intro hl), if_pos hn]⟩
      · left; rw [if_neg (not_not_intro hl), if_neg hn]
    · left; rw [if_pos hl]

end Requests

end LakeStore.Lease
