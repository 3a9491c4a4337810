import LakeStore.Proofs.Upload.Parts
import LakeStore.Proofs.Upload.Session

/-!
Uploads whose caller tries again.

Nobody else writes, but any answer may be lost, before or after its request took effect. A caller passes a
part on again as long as the failure says that this may help. The handle counts a part at every try: so each
try has to append the part once more, and a try that did not leaves the handle ahead of the file for good.
What is in the file after a commit is therefore each part as often as it was passed on.
-/

namespace LakeStore.Upload

open Dialogue
open Lease (File Files Verdict serve)
open Remote (Request Response settle)
open Remote.Classification (ofFault collapsed)

/-- A remote whose answers may be lost, before or after the request took effect. -/
inductive Unreliable (q : Request) (files : Files) : Except Fault Response → Files → Prop
  | answered {r : Response} : (serve q files).1.Tells r → Unreliable q files (.ok r) (serve q files).2
  | replyLost (failure : RequestFailure) : Unreliable q files (.error (.request failure)) (serve q files).2
  | requestLost (failure : RequestFailure) : Unreliable q files (.error (.request failure)) files

/-- One call that passes a part on to such a remote. -/
def Tries (h : Handle) (body : Blob.Content) (files : Files) (r : Except Fault Unit) (after : Files) : Prop :=
  Runs (P := Remote.protocol) Unreliable (Backend.addPart h body body.bytes.length).2.run files r after

/-- The handle after such a call. -/
abbrev counted (h : Handle) (body : Blob.Content) : Handle := (Backend.addPart h body body.bytes.length).1

/-- A caller passes a part on until the call returns, as long as the failure says that trying again may
help. The number counts its calls. -/
inductive Delivered (body : Blob.Content) : Handle → Files → Nat → Handle → Files → Prop
  | returned {h : Handle} {files after : Files} : Tries h body files (.ok ()) after →
      Delivered body h files 1 (counted h body) after
  | again {h h' : Handle} {files after last : Files} {e : StoreError} {calls : Nat} :
      Tries h body files (.error (.store e)) after → e.retryable = true →
      Delivered body (counted h body) after calls h' last → Delivered body h files (calls + 1) h' last

/-- A caller delivers parts one after the other. -/
inductive Uploaded : Handle → Files → List (Blob.Content × Nat) → Handle → Files → Prop
  | nil {h : Handle} {files : Files} : Uploaded h files [] h files
  | cons {h h' h'' : Handle} {files after last : Files} {body : Blob.Content} {calls : Nat}
      {rest : List (Blob.Content × Nat)} : Delivered body h files calls h' after →
      Uploaded h' after rest h'' last → Uploaded h files ((body, calls) :: rest) h'' last

/-! ### One call -/

/-- The handle ends where its file ends. -/
structure Synced (u : Upload) (files : Files) (content : Bytes) : Prop where
  file : files u.remotePath = some ⟨content, some u.lease, some u.lease⟩
  size : u.size = content.length

/-- The handle is ahead of its file. -/
def Ahead (u : Upload) (files : Files) : Prop :=
  ∃ f, files u.remotePath = some f ∧ f.lease = some u.lease ∧ (f.content.length : Int) < u.size

variable {u : Upload} {body : Blob.Content} {files after : Files} {content : Bytes} {r : Except Fault Unit}

theorem tries_iff :
    Tries (.upload u) body files r after ↔
      Runs (P := Remote.protocol) Unreliable
        (.ask ((u.extend body.bytes.length).appendRequest (some u.size) .data body) fun answer =>
          (u.extend body.bytes.length).followed (settle true answer)) files r after := by
  rw [Tries, ← runs_silent, ← offset_extend (u := u) body.bytes.length, ← silent_appendLast]
  exact iff_of_eq (congrArg (Runs Unreliable · files r after) (Backend.silent_observed _ _ _))

/-- The file of an upload with more in it. -/
def appended (u : Upload) (files : Files) (content : Bytes) : Files :=
  Function.update files u.remotePath (some ⟨content, some u.lease, some u.lease⟩)

theorem Synced.serve_part (h : Synced u files content) :
    serve ((u.extend body.bytes.length).appendRequest (some u.size) .data body) files =
      (.applied, appended u files (content ++ body.bytes)) := by
  refine Lease.serve_applied (u.extend body.bytes.length) _ _ body
    (f := ⟨content, some u.lease, some u.lease⟩)
    h.file rfl fun n hn => ?_
  rw [← Option.some.inj hn, h.size]

/-- A part that is passed on where the file ends is appended, unless its request is lost; and the call
returns, unless its answer is. -/
theorem Synced.tries_iff (h : Synced u files content) :
    Tries (.upload u) body files r after ↔
      r = .ok () ∧ after = appended u files (content ++ body.bytes) ∨
      ∃ failure, r = .error (.store (ofFault (.request failure))) ∧
        (after = appended u files (content ++ body.bytes) ∨ after = files) := by
  rw [Upload.tries_iff, runs_ask_iff]
  constructor
  · rintro ⟨answer, s, hserves, hrest⟩
    cases hserves with
    | answered htells =>
      rw [h.serve_part] at htells hrest
      rw [Lease.settle_applied htells] at hrest
      exact .inl (runs_done_iff.mp hrest)
    | replyLost failure =>
      rw [h.serve_part] at hrest
      obtain ⟨hr, ha⟩ := runs_done_iff.mp hrest
      exact .inr ⟨failure, hr, .inl ha⟩
    | requestLost failure =>
      obtain ⟨hr, ha⟩ := runs_done_iff.mp hrest
      exact .inr ⟨failure, hr, .inr ha⟩
  · rintro (⟨rfl, rfl⟩ | ⟨failure, rfl, rfl | rfl⟩)
    · have htells :
          (serve ((u.extend body.bytes.length).appendRequest (some u.size) .data body) files).1.Tells
          { operation := .append, status := 200 } := by rw [h.serve_part]; rfl
      refine ⟨_, _, .answered htells, ?_⟩
      rw [h.serve_part]; exact .done _ _
    · refine ⟨_, _, .replyLost failure, ?_⟩
      rw [h.serve_part]; exact .done _ _
    · exact ⟨_, _, .requestLost failure, .done _ _⟩

theorem Synced.appended (h : Synced u files content) (body : Blob.Content) :
    Synced (u.extend body.bytes.length) (u.appended files (content ++ body.bytes))
      (content ++ body.bytes) where
  file := Function.update_self ..
  size := by rw [extend, h.size, List.length_append]; push_cast; rfl

/-- After a call on a handle that ends where its file ends it still does, with the part in the file; or else
the part is not there, the call failed, and the handle is ahead. -/
theorem Synced.tries (h : Synced u files content) (ht : Tries (.upload u) body files r after) :
    Synced (u.extend body.bytes.length) after (content ++ body.bytes) ∨
      (∃ fault, r = .error fault) ∧ Ahead (u.extend body.bytes.length) after := by
  rcases h.tries_iff.mp ht with ⟨-, rfl⟩ | ⟨failure, hr, rfl | rfl⟩
  · exact .inl (h.appended body)
  · exact .inl (h.appended body)
  · rcases Nat.eq_zero_or_pos body.bytes.length with hempty | hpos
    · -- nothing was to be appended, so nothing is missing
      have hnone : body.bytes = [] := List.length_eq_zero_iff.mp hempty
      refine .inl ⟨?_, ?_⟩
      · rw [hnone, List.append_nil]; exact h.file
      · rw [hnone, List.append_nil, extend, h.size]; exact Int.add_zero _
    · refine .inr ⟨⟨_, hr⟩, _, h.file, rfl, ?_⟩
      show (content.length : Int) < u.size + body.bytes.length
      rw [h.size]; omega

/-- Where the handle is ahead of its file nothing is appended, no call returns, and the handle stays ahead. -/
theorem Ahead.tries (h : Ahead u files) (ht : Tries (.upload u) body files r after) :
    (∃ fault, r = .error fault) ∧ Ahead (u.extend body.bytes.length) after := by
  obtain ⟨f, hf, hl, hlen⟩ := h
  have hsize : (u.extend body.bytes.length).size = u.size + body.bytes.length := rfl
  have hahead : Ahead (u.extend body.bytes.length) files := ⟨f, hf, hl, by rw [hsize]; omega⟩
  have hnever : ∀ (offset : Int) (flag : Remote.SyncFlag) (b : Blob.Content), u.size ≤ offset →
      serve ((u.extend body.bytes.length).appendRequest (some offset) flag b) files =
        (.misplaced, files) := by
    intro offset flag b ho
    refine Lease.serve_misplaced (u.extend body.bytes.length) _ _ b hf hl fun hn => ?_
    have := hn offset rfl
    omega
  rw [tries_iff, runs_ask_iff] at ht
  obtain ⟨answer, s, hserves, hrest⟩ := ht
  cases hserves with
  | answered htells =>
    rw [hnever u.size _ _ le_rfl] at htells hrest
    obtain ⟨g, hg, h400, hexception⟩ := Lease.settle_misplaced htells
    rw [hg] at hrest
    change Runs Unreliable ((u.extend body.bytes.length).refusal g).run.silent files r after at hrest
    rw [silent_refusal, if_neg (by rw [h400]; decide), if_pos ⟨h400, hexception⟩, runs_ask_iff] at hrest
    obtain ⟨answer, s, hserves, hrest⟩ := hrest
    have hprobe := hnever (u.extend body.bytes.length).size .close (.whole []) (by rw [hsize]; omega)
    -- nor does the file end behind the part, so the question after it fails, too
    cases hserves with
    | answered htells =>
      rw [hprobe] at htells hrest
      rw [Lease.settle_misplaced_plain htells] at hrest
      obtain ⟨hr, rfl⟩ := runs_done_iff.mp hrest
      exact ⟨⟨_, hr⟩, hahead⟩
    | replyLost failure =>
      rw [hprobe] at hrest
      obtain ⟨hr, rfl⟩ := runs_done_iff.mp hrest
      exact ⟨⟨_, hr⟩, hahead⟩
    | requestLost failure =>
      obtain ⟨hr, rfl⟩ := runs_done_iff.mp hrest
      exact ⟨⟨_, hr⟩, hahead⟩
  | replyLost failure =>
    rw [hnever u.size _ _ le_rfl] at hrest
    obtain ⟨hr, rfl⟩ := runs_done_iff.mp hrest
    exact ⟨⟨_, hr⟩, hahead⟩
  | requestLost failure =>
    obtain ⟨hr, rfl⟩ := runs_done_iff.mp hrest
    exact ⟨⟨_, hr⟩, hahead⟩

/-! ### One part -/

variable {h h' : Handle} {calls : Nat}

theorem Delivered.not_ahead (hd : Delivered body h files calls h' after) :
    ∀ {u : Upload}, h = .upload u → ¬ Ahead u files := by
  induction hd with
  | returned ht =>
    rintro u rfl ha
    obtain ⟨⟨_, he⟩, -⟩ := ha.tries ht
    exact nomatch he
  | again ht _ _ ih => rintro u rfl ha; exact ih rfl (ha.tries ht).2

theorem Delivered.calls_pos (hd : Delivered body h files calls h' after) : 0 < calls := by
  cases hd with
  | returned => exact Nat.one_pos
  | again => exact Nat.succ_pos _

/-- A part that was delivered is in the file as often as it was passed on. -/
theorem Delivered.synced (hd : Delivered body h files calls h' after) :
    ∀ {u : Upload} {content : Bytes}, h = .upload u → Synced u files content →
      ∃ v, h' = .upload v ∧ v.remotePath = u.remotePath ∧
        Synced v after (content ++ (List.replicate calls body.bytes).flatten) := by
  induction hd with
  | returned ht =>
    rintro u content rfl hs
    rcases hs.tries ht with hs | ⟨⟨_, he⟩, -⟩
    · refine ⟨_, rfl, rfl, ?_⟩
      rw [List.replicate_one, List.flatten_singleton]; exact hs
    · exact nomatch he
  | again ht _ hd ih =>
    rintro u content rfl hs
    rcases hs.tries ht with hs | ⟨-, ha⟩
    · obtain ⟨v, hv, hp, hs⟩ := ih rfl hs
      refine ⟨v, hv, hp, ?_⟩
      rw [List.replicate_succ, List.flatten_cons, ← List.append_assoc]; exact hs
    · exact absurd ha (hd.not_ahead rfl)

/-- Any number of calls may be needed. -/
theorem Synced.delivered (body : Blob.Content) :
    ∀ (calls : Nat) {u : Upload} {files : Files} {content : Bytes},
    Synced u files content → ∃ h after, Delivered body (.upload u) files (calls + 1) h after
  | 0, _, _, _, hs => ⟨_, _, .returned (hs.tries_iff.mpr (.inl ⟨rfl, rfl⟩))⟩
  | calls + 1, _, _, _, hs => by
    obtain ⟨h, after, hd⟩ := Synced.delivered body calls (hs.appended body)
    exact ⟨h, after, .again (hs.tries_iff.mpr (.inr ⟨⟨"", "", "", true, none⟩, rfl, .inl rfl⟩)) rfl hd⟩

/-! ### A whole upload -/

variable {parts : List (Blob.Content × Nat)}

/-- What is in a file after each part was passed on some number of times. -/
def passed (parts : List (Blob.Content × Nat)) : Bytes :=
  parts.flatMap fun p => (List.replicate p.2 p.1.bytes).flatten

theorem Uploaded.synced (hu : Uploaded h files parts h' after) :
    ∀ {u : Upload} {content : Bytes}, h = .upload u → Synced u files content →
      ∃ v, h' = .upload v ∧ v.remotePath = u.remotePath ∧ Synced v after (content ++ passed parts) := by
  induction hu with
  | nil =>
    intro u content h hs
    exact ⟨u, h, rfl, by rw [passed, List.flatMap_nil, List.append_nil]; exact hs⟩
  | cons hd _ ih =>
    intro u content h hs
    obtain ⟨v, hv, hp, hs⟩ := hd.synced h hs
    obtain ⟨w, hw, hp', hs⟩ := ih hv hs
    refine ⟨w, hw, hp'.trans hp, ?_⟩
    rw [passed, List.flatMap_cons, ← List.append_assoc]; exact hs

theorem Uploaded.calls_pos (hu : Uploaded h files parts h' after) : ∀ p ∈ parts, 0 < p.2 := by
  induction hu with
  | nil => exact nofun
  | cons hd _ ih => exact List.forall_mem_cons.mpr ⟨hd.calls_pos, ih⟩

/-- Any number of calls may be needed for each part. -/
theorem Synced.uploaded : ∀ (parts : List (Blob.Content × Nat)), (∀ p ∈ parts, 0 < p.2) →
    ∀ {u : Upload} {files : Files} {content : Bytes}, Synced u files content →
      ∃ h after, Uploaded (.upload u) files parts h after
  | [], _, _, _, _, _ => ⟨_, _, .nil⟩
  | (body, calls) :: rest, hpos, _, _, _, hs => by
    obtain ⟨k, rfl⟩ := Nat.exists_eq_add_of_lt (hpos _ List.mem_cons_self)
    rw [Nat.zero_add] at *
    obtain ⟨h, after, hd⟩ := hs.delivered body k
    obtain ⟨v, rfl, -, hs⟩ := hd.synced rfl hs
    obtain ⟨h, last, hu⟩ := Synced.uploaded rest (fun p hp => hpos p (List.mem_cons_of_mem _ hp)) hs
    exact ⟨h, last, .cons hd hu⟩

theorem length_passed_cons (p : Blob.Content × Nat) (rest : List (Blob.Content × Nat)) :
    (passed (p :: rest)).length = p.2 * p.1.bytes.length + (passed rest).length := by
  rw [passed, List.flatMap_cons, List.length_append, List.length_flatten, List.map_replicate,
    List.sum_replicate_nat]; rfl

theorem length_le_passed : ∀ parts : List (Blob.Content × Nat), (∀ p ∈ parts, 0 < p.2) →
    (parts.map fun p => p.1.bytes).flatten.length ≤ (passed parts).length
  | [], _ => Nat.le_refl _
  | p :: rest, hpos => by
    have hrest := length_le_passed rest fun q hq => hpos q (List.mem_cons_of_mem p hq)
    have hp : p.1.bytes.length ≤ p.2 * p.1.bytes.length :=
      Nat.le_mul_of_pos_left _ (hpos p List.mem_cons_self)
    rw [length_passed_cons, List.map_cons, List.flatten_cons, List.length_append]
    omega

/-- A file holds each part once exactly if no part was passed on again, empty ones apart. -/
theorem passed_eq_iff : ∀ parts : List (Blob.Content × Nat), (∀ p ∈ parts, 0 < p.2) →
    (passed parts = (parts.map fun p => p.1.bytes).flatten ↔ ∀ p ∈ parts, 1 < p.2 → p.1.bytes = [])
  | [], _ => iff_of_true rfl nofun
  | p :: rest, hpos => by
    have hrest : ∀ q ∈ rest, 0 < q.2 := fun q hq => hpos q (List.mem_cons_of_mem p hq)
    rw [List.forall_mem_cons, ← passed_eq_iff rest hrest, List.map_cons, List.flatten_cons]
    have hone : (1 < p.2 → p.1.bytes = []) → (List.replicate p.2 p.1.bytes).flatten = p.1.bytes := by
      intro h
      rcases Nat.eq_or_lt_of_le (hpos p List.mem_cons_self) with he | hlt
      · rw [← he, List.replicate_one, List.flatten_singleton]
      · rw [h hlt, List.flatten_replicate_nil]
    constructor
    · intro h
      -- the file is as long as all parts taken once, so no part can be in it once more
      have hlen := congrArg List.length h
      rw [length_passed_cons, List.length_append] at hlen
      have hle := length_le_passed rest hrest
      have hp : 1 < p.2 → p.1.bytes = [] := by
        intro hlt
        have : 2 * p.1.bytes.length ≤ p.2 * p.1.bytes.length := Nat.mul_le_mul_right _ hlt
        exact List.length_eq_zero_iff.mp (by omega)
      refine ⟨hp, ?_⟩
      rw [passed, List.flatMap_cons, hone hp] at h
      exact List.append_cancel_left h
    · rintro ⟨hp, h⟩
      rw [passed, List.flatMap_cons, hone hp]
      exact congrArg (p.1.bytes ++ ·) h

theorem begin_synced {b : Backend} {key : String}
    (h : Runs (P := Remote.protocol) Unreliable (b.beginUpload key).run files (.ok u) after) :
    u.remotePath = b.path key ∧ Synced u after [] := by
  obtain ⟨⟨serial, rfl⟩, answer, x, hserves, hx⟩ := begun_of_runs h
  refine ⟨rfl, ?_, rfl⟩
  cases hserves with
  | answered _ =>
    rw [Lease.serve_createRequest]
    exact Function.update_self ..
  | replyLost failure => cases hx
  | requestLost failure => cases hx

theorem Synced.serve_close (h : Synced u files content) :
    serve u.closeRequest files =
      (.applied, Function.update files u.remotePath (some ⟨content, none, some u.lease⟩)) := by
  have hserve := Lease.serve_applied u (some u.size) .close (.whole []) h.file rfl fun n hn => by
    rw [← Option.some.inj hn, h.size]
  rw [closeRequest, hserve, File.grown, show (Blob.Content.whole []).bytes = [] from rfl, List.append_nil];
    rfl

/-- A file that was committed holds each part as often as the part was passed on. -/
theorem Uploaded.committed {b : Backend} {key : String} {files₀ files₁ files₂ files₃ : Files}
    (hparts : Uploaded (.upload u) files₁ parts h files₂)
    (hbegin : Runs (P := Remote.protocol) Unreliable (b.beginUpload key).run files₀ (.ok u) files₁)
    (hcommit : Runs (P := Remote.protocol) Unreliable (Backend.commitUpload h).run files₂ (.ok ()) files₃) :
    ∃ f, files₃ (b.path key) = some f ∧ f.content = passed parts := by
  obtain ⟨hpath, hs⟩ := begin_synced hbegin
  obtain ⟨v, rfl, hp, hs⟩ := hparts.synced rfl hs
  rw [List.nil_append] at hs
  obtain ⟨answer, hserves, hr⟩ := runs_commitUpload.mp hcommit
  cases hserves with
  | answered _ =>
    rw [hs.serve_close, ← hpath, ← hp]
    exact ⟨_, Function.update_self .., rfl⟩
  | replyLost failure => exact nomatch hr
  | requestLost failure => exact nomatch hr

/-- A remote whose answers may be lost, and this one was not: the request succeeded. -/
def Acknowledged (q : Request) (files : Files) (answer : Except Fault Response) (after : Files) : Prop :=
  Unreliable q files answer after ∧ ∃ response, answer = .ok response ∧ response.isSuccess = true

theorem exists_begin (b : Backend) (key : String) (files : Files) :
    ∃ u after, Runs (P := Remote.protocol) Unreliable (b.beginUpload key).run files (.ok u) after := by
  have htells :
      (serve (createRequest b.account.filePermission (b.path key) (Identifier.numbered 1)) files).1.Tells
      { operation := .create, status := 201 } := by rw [Lease.serve_createRequest]; rfl
  exact ⟨_, _, runs_beginUpload.mpr ⟨1, _, .answered htells, rfl⟩⟩

theorem Synced.commits (h : Synced u files content) :
    ∃ after, Runs (P := Remote.protocol) Acknowledged (Backend.commitUpload (.upload u)).run files
      (.ok ()) after := by
  have htells : (serve u.closeRequest files).1.Tells { operation := .append, status := 200 } := by
    rw [h.serve_close]; rfl
  exact ⟨_, runs_commitUpload.mpr ⟨_, ⟨.answered htells, _, rfl, rfl⟩, rfl⟩⟩

/-- Every pattern of tries occurs: whatever parts there are, and however often each of them is passed on,
there is an upload of them that is committed by a request that succeeds. -/
theorem exists_upload (b : Backend) (key : String) (files : Files) (parts : List (Blob.Content × Nat))
    (hpos : ∀ p ∈ parts, 0 < p.2) :
    ∃ u h files₁ files₂ files₃,
      Runs (P := Remote.protocol) Unreliable (b.beginUpload key).run files (.ok u) files₁ ∧
        Uploaded (.upload u) files₁ parts h files₂ ∧
        Runs (P := Remote.protocol) Acknowledged (Backend.commitUpload h).run files₂ (.ok ()) files₃ := by
  obtain ⟨u, files₁, hbegin⟩ := exists_begin b key files
  obtain ⟨-, hs⟩ := begin_synced hbegin
  obtain ⟨h, files₂, hparts⟩ := Synced.uploaded parts hpos hs
  obtain ⟨v, rfl, -, hs⟩ := hparts.synced rfl hs
  obtain ⟨files₃, hcommit⟩ := hs.commits
  exact ⟨u, _, files₁, files₂, files₃, hbegin, hparts, hcommit⟩

/-- A file that was committed holds each part as often as the part was passed on. So it holds each part once
exactly if no part was passed on again, empty ones apart. -/
theorem committed_content {b : Backend} {key : String} {files₀ files₁ files₂ files₃ : Files}
    (hbegin : Runs (P := Remote.protocol) Unreliable (b.beginUpload key).run files₀ (.ok u) files₁)
    (hparts : Uploaded (.upload u) files₁ parts h files₂)
    (hcommit : Runs (P := Remote.protocol) Acknowledged (Backend.commitUpload h).run files₂ (.ok ()) files₃) :
    ∃ f, files₃ (b.path key) = some f ∧ f.content = passed parts ∧
      (f.content = (parts.map fun p => p.1.bytes).flatten ↔ ∀ p ∈ parts, 1 < p.2 → p.1.bytes = []) := by
  obtain ⟨f, hf, hcontent⟩ := hparts.committed hbegin (hcommit.mono fun _ _ _ _ h => h.1)
  refine ⟨f, hf, hcontent, ?_⟩
  rw [hcontent]
  exact passed_eq_iff parts hparts.calls_pos

/-- Two parts that are passed on once each, with an empty one between them that is passed on three times. -/
theorem committed_content_once :
    ∃ (u : Upload) (h : Handle) (files₁ files₂ files₃ : Files) (f : File),
      Runs (P := Remote.protocol) Unreliable (Backend.beginUpload ⟨{ endpoint := "a.b" }, 0⟩ "k").run
        (fun _ => none) (.ok u) files₁ ∧
      Uploaded (.upload u) files₁ [(.whole [97], 1), (.whole [], 3), (.chunked [[98], [99]], 1)] h files₂ ∧
      Runs (P := Remote.protocol) Acknowledged (Backend.commitUpload h).run files₂ (.ok ()) files₃ ∧
      files₃ "k" = some f ∧ f.content = [97, 98, 99] := by
  obtain ⟨u, h, files₁, files₂, files₃, hbegin, hparts, hcommit⟩ :=
    exists_upload ⟨{ endpoint := "a.b" }, 0⟩ "k" (fun _ => none)
      [(.whole [97], 1), (.whole [], 3), (.chunked [[98], [99]], 1)] (by decide)
  obtain ⟨f, hf, -, hiff⟩ := committed_content hbegin hparts hcommit
  exact ⟨u, h, files₁, files₂, files₃, f, hbegin, hparts, hcommit, hf, hiff.mpr (by decide)⟩

/-- One part whose first answer is lost: its caller is told to try again, does so once, and the commit is
reported; the part is in the file twice. -/
theorem retried_part_twice :
    ∃ (u : Upload) (h : Handle) (files₁ files₂ files₃ : Files) (f : File),
      Runs (P := Remote.protocol) Unreliable (Backend.beginUpload ⟨{ endpoint := "a.b" }, 0⟩ "k").run
        (fun _ => none) (.ok u) files₁ ∧
      Uploaded (.upload u) files₁ [(.whole [97, 98, 99], 2)] h files₂ ∧
      Runs (P := Remote.protocol) Acknowledged (Backend.commitUpload h).run files₂ (.ok ()) files₃ ∧
      files₃ "k" = some f ∧ f.content = [97, 98, 99, 97, 98, 99] ∧
      f.content ≠ [((.whole [97, 98, 99] : Blob.Content), 2)].flatMap fun p => p.1.bytes := by
  obtain ⟨u, h, files₁, files₂, files₃, hbegin, hparts, hcommit⟩ :=
    exists_upload ⟨{ endpoint := "a.b" }, 0⟩ "k" (fun _ => none) [(.whole [97, 98, 99], 2)] (by decide)
  obtain ⟨f, hf, hcontent⟩ := hparts.committed hbegin (hcommit.mono fun _ _ _ _ h => h.1)
  refine ⟨u, h, files₁, files₂, files₃, f, hbegin, hparts, hcommit, hf, hcontent, ?_⟩
  rw [hcontent]; decide

end LakeStore.Upload
