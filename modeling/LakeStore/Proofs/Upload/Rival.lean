import LakeStore.Proofs.Lease
import LakeStore.Proofs.Upload.Parts

/-!
Uploads to a file that others write to, too.

Before and after every exchange of an upload, others may delete its file or create it anew; and answers may
be lost. While the file is under the lease of the upload it is at most as long as the handle says, and
exactly as long only if all parts were appended. So a commit that the remote confirms has all parts behind
it. A commit that finds no file has only those parts behind it whose calls returned: it does not tell
whether others were appended.
-/

namespace LakeStore.Upload

open Dialogue
open Lease (File Files Verdict param)
open Remote (Request Response SyncFlag heard settle)

/-- A remote between two exchanges of an upload: its files, and the requests of the upload that it has
applied. -/
structure Scene where
  files : Files
  applied : List Request

/-- The remote after a request of the upload. -/
def Scene.serve (s : Scene) (q : Request) : Scene where
  files := (Lease.serve q s.files).2
  applied := if (Lease.serve q s.files).1 = .applied then s.applied ++ [q] else s.applied

/-- A request that does not come from the upload of a lease: a deletion, or one that is not under the
lease. -/
def Rival (lease : String) (q : Request) : Prop := q.operation = .delete ∨ param "leaseid" q ≠ some lease

/-- What others do between two exchanges of an upload. -/
inductive Meddled (lease : String) : Scene → Scene → Prop
  | refl {s : Scene} : Meddled lease s s
  | step {s t : Scene} {q : Request} :
      Rival lease q → Meddled lease { s with files := (Lease.serve q s.files).2 } t →
      Meddled lease s t

/-- One exchange, whose request or reply may be lost. -/
inductive Exchanged (q : Request) (s : Scene) : Except RequestFailure Response → Scene → Prop
  | answered {r : Response} : (Lease.serve q s.files).1.Tells r → Exchanged q s (.ok r) (s.serve q)
  | replyLost (failure : RequestFailure) : Exchanged q s (.error failure) (s.serve q)
  | requestLost (failure : RequestFailure) : Exchanged q s (.error failure) s

/-- An exchange of an upload, with what others do before it and after it. -/
def Shared (lease : String) (q : Request) (s : Scene) (answer : Except Fault Response) (t : Scene) : Prop :=
  ∃ a s' t', answer = heard a ∧ Meddled lease s s' ∧ Exchanged q s' a t' ∧ Meddled lease t' t

/-- A file that is under the lease of an upload. -/
def Scene.Holds (s : Scene) (u : Upload) (f : File) : Prop :=
  s.files u.remotePath = some f ∧ f.lease = some u.lease

variable {u v : Upload} {lease : String} {q : Request} {s s' t : Scene} {f g : File} {body : Blob.Content}
  {a : Except RequestFailure Response} {r : Except Fault Unit} {offset : Int} {flag : SyncFlag}
    {parts done : List Part}

/-! ### What others can do -/

/-- A request changes at most the file at its path, and leaves there a file under its own lease, if any. -/
theorem serve_cases (q : Request) (files : Files) :
    (Lease.serve q files).2 = files ∨ ∃ o, (Lease.serve q files).2 = Function.update files q.path o ∧
      ∀ f ∈ o, q.operation ≠ .delete ∧ ∀ lease, f.lease = some lease → param "leaseid" q = some lease := by
  rw [Lease.serve]
  split
  next hcreate => exact .inr ⟨_, rfl, by rintro _ ⟨⟩; exact ⟨by simp [hcreate], fun _ h => h⟩⟩
  next happend =>
    split
    · exact .inl rfl
    next g hg =>
      split
      next hjudge =>
        refine .inr ⟨_, rfl, ?_⟩
        rintro _ ⟨⟩
        refine ⟨by simp [happend], fun lease hlease => ?_⟩
        have hg : g.lease = some lease := by
          rw [File.append] at hlease
          split at hlease
          · cases hlease
          · exact hlease
        by_contra hne
        simp [File.judge, hg, hne] at hjudge
      · exact .inl rfl
  · exact .inr ⟨none, rfl, by simp⟩
  · exact .inl rfl

/-- Nobody else leaves a file under the lease that was not so before. -/
theorem Rival.file_eq {files : Files} {path : String} (h : Rival lease q)
    (hf : (Lease.serve q files).2 path = some f) (hlease : f.lease = some lease) : files path = some f := by
  rcases serve_cases q files with hsame | ⟨o, hupdate, ho⟩
  · rwa [hsame] at hf
  rw [hupdate] at hf
  by_cases hpath : path = q.path
  · rw [hpath, Function.update_self] at hf
    obtain ⟨hop, hown⟩ := ho f hf
    exact (h.elim hop fun hother => hother (hown lease hlease)).elim
  · rwa [Function.update_of_ne hpath] at hf

theorem Meddled.holds (h : Meddled u.lease s t) (hf : t.Holds u f) : s.Holds u f := by
  induction h with
  | refl => exact hf
  | step hrival _ ih => exact ⟨hrival.file_eq (ih hf).1 hf.2, hf.2⟩

theorem Meddled.applied_eq (h : Meddled lease s t) : t.applied = s.applied := by
  induction h with
  | refl => rfl
  | step _ _ ih => exact ih

/-! ### What becomes of an append -/

/-- An append that the remote applies goes to the end of a file under the lease, and its answer is a
success, if one comes. Any other append changes nothing; if an answer comes, it says that the file or the
lease is gone, or that the file does not end there. -/
inductive Appended (u : Upload) (offset : Int) (flag : SyncFlag) (body : Blob.Content) (s : Scene) :
    Except RequestFailure Response → Scene → Prop
  | applied {a : Except RequestFailure Response} {f : File} : s.Holds u f → offset = f.content.length →
      (∀ r, a = .ok r → r.isSuccess = true) →
      Appended u offset flag body s a
        ⟨Function.update s.files u.remotePath (some (f.grown body.bytes flag)),
          s.applied ++ [u.appendRequest (some offset) flag body]⟩
  | missed {a : Except RequestFailure Response} :
      (∀ r, a = .ok r → r.status = 404 ∨ r.status = 400 ∧ ∀ f, s.Holds u f → offset ≠ f.content.length) →
      Appended u offset flag body s a s

theorem serve_absent (u : Upload) (offset : Option Int) (flag : SyncFlag) (body : Blob.Content)
    {files : Files} (hf : files u.remotePath = none) :
    Lease.serve (u.appendRequest offset flag body) files = (.leaseless, files) := by
  simp [Lease.serve, appendRequest, hf]

theorem Scene.serve_appendRequest (s : Scene) (u : Upload) (offset : Int) (flag : SyncFlag)
    (body : Blob.Content) :
    (∃ f, s.Holds u f ∧ offset = f.content.length ∧
      (Lease.serve (u.appendRequest (some offset) flag body) s.files).1 = .applied ∧
      s.serve (u.appendRequest (some offset) flag body) =
        ⟨Function.update s.files u.remotePath (some (f.grown body.bytes flag)),
          s.applied ++ [u.appendRequest (some offset) flag body]⟩) ∨
    s.serve (u.appendRequest (some offset) flag body) = s ∧
      ((Lease.serve (u.appendRequest (some offset) flag body) s.files).1 = .leaseless ∨
        (Lease.serve (u.appendRequest (some offset) flag body) s.files).1 = .misplaced ∧
          ∀ f, s.Holds u f → offset ≠ f.content.length) := by
  rcases hf : s.files u.remotePath with _ | f
  · have hserve := serve_absent u (some offset) flag body hf
    exact .inr ⟨by rw [Scene.serve, hserve]; rfl, .inl (by rw [hserve])⟩
  have hserve := Lease.serve_appendRequest u (some offset) flag body hf
  by_cases hl : f.lease = some u.lease
  · rw [if_neg (not_not_intro hl)] at hserve
    by_cases hn : offset = f.content.length
    · rw [if_pos (by simpa using hn)] at hserve
      exact .inl ⟨f, ⟨hf, hl⟩, hn, by rw [hserve], by rw [Scene.serve, hserve]; rfl⟩
    · rw [if_neg (by simpa using hn)] at hserve
      refine .inr ⟨by rw [Scene.serve, hserve]; rfl, .inr ⟨by rw [hserve], ?_⟩⟩
      rintro g ⟨hg, -⟩
      obtain rfl := Option.some.inj (hf.symm.trans hg)
      exact hn
  · rw [if_pos hl] at hserve
    exact .inr ⟨by rw [Scene.serve, hserve]; rfl, .inl (by rw [hserve])⟩

theorem Exchanged.appended (h : Exchanged (u.appendRequest (some offset) flag body) s a t) :
    Appended u offset flag body s a t := by
  have hserved := s.serve_appendRequest u offset flag body
  cases h with
  | answered htells =>
    rcases hserved with ⟨f, hf, hn, hverdict, hscene⟩ | ⟨hscene, hverdict⟩
    · rw [hverdict] at htells
      rw [hscene]
      refine .applied hf hn ?_
      rintro _ ⟨⟩
      exact htells
    · rw [hscene]
      refine .missed ?_
      rintro _ ⟨⟩
      rcases hverdict with hverdict | ⟨hverdict, hplace⟩ <;> rw [hverdict] at htells
      · exact .inl htells
      · exact .inr ⟨htells.1, hplace⟩
  | replyLost failure =>
    rcases hserved with ⟨f, hf, hn, -, hscene⟩ | ⟨hscene, -⟩
    · rw [hscene]
      exact .applied hf hn (by simp)
    · rw [hscene]
      exact .missed (by simp)
  | requestLost failure => exact .missed (by simp)

theorem Appended.applied_subset (h : Appended u offset flag body s a t) : s.applied ⊆ t.applied := by
  cases h with
  | applied => exact List.subset_append_left _ _
  | missed => exact List.Subset.refl _

/-- An append that missed is no success to its call. -/
theorem settle_ne_ok {structured : Bool} {x : Response} {P : Response → Prop}
    (h : ∀ r, a = .ok r → r.status = 404 ∨ r.status = 400 ∧ P r) : settle structured (heard a) ≠ .ok x := by
  intro hok
  obtain ⟨rfl, hsuccess⟩ := Remote.settle_heard_eq_ok.mp hok
  rcases h x rfl with h404 | ⟨h400, -⟩
  · simp [Response.isSuccess, h404] at hsuccess
  · simp [Response.isSuccess, h400] at hsuccess

/-! ### What the handle counts -/

/-- The request of a part. -/
def Part.request (p : Part) : Request := p.handle.partRequest p.body

/-- Nothing of a part is missing: it was applied, or there is nothing in it. -/
def Part.InPlace (p : Part) (s : Scene) : Prop := p.request ∈ s.applied ∨ p.body.bytes = []

/-- A file under the lease ends before the handle does, or where it does and then no part is missing. -/
def Counts (s : Scene) (u : Upload) (parts : List Part) : Prop :=
  ∀ f, s.Holds u f → (f.content.length : Int) < u.size ∨
    (f.content.length : Int) = u.size ∧ ∀ p ∈ parts, p.InPlace s

theorem Part.InPlace.mono {p : Part} (h : p.InPlace s) (hst : s.applied ⊆ t.applied) : p.InPlace t :=
  h.imp_left fun hp => hst hp

theorem Counts.meddled (h : Counts s u parts) (hst : Meddled u.lease s t) : Counts t u parts := by
  intro f hf
  refine (h f (hst.holds hf)).imp_right fun ⟨hlength, hparts⟩ => ⟨hlength, fun p hp => ?_⟩
  exact (hparts p hp).mono (by rw [hst.applied_eq]; exact List.Subset.refl _)

/-- A part that is not applied leaves the handle ahead of the file, unless it is empty. -/
theorem Counts.missed (h : Counts s u done) (body : Blob.Content) (r : Except Fault Unit) :
    Counts s (u.extend body.bytes.length) (done ++ [⟨u, body, body.bytes.length, r⟩]) := by
  intro f hf
  have hsize : (u.extend body.bytes.length).size = u.size + body.bytes.length := rfl
  rcases h f hf with hlt | ⟨heq, hdone⟩
  · exact .inl (by omega)
  rcases Nat.eq_zero_or_pos body.bytes.length with hempty | hpos
  · refine .inr ⟨by omega, fun p hp => ?_⟩
    rcases List.mem_append.mp hp with hp | hp
    · exact hdone p hp
    · obtain rfl := List.mem_singleton.mp hp
      exact .inr (List.length_eq_zero_iff.mp hempty)
  · exact .inl (by omega)

/-- A part that is applied goes where the handle ends, so that no part before it is missing. -/
theorem Counts.applied (h : Counts s u done) (body : Blob.Content) (r : Except Fault Unit) (hf : s.Holds u f)
    (hsize : u.size = f.content.length) :
    Counts ⟨Function.update s.files u.remotePath (some (f.grown body.bytes .data)),
      s.applied ++ [u.partRequest body]⟩
      (u.extend body.bytes.length) (done ++ [⟨u, body, body.bytes.length, r⟩]) := by
  rintro g ⟨hg, -⟩
  obtain rfl : f.grown body.bytes .data = g := by
    have hself :
        Function.update s.files u.remotePath (some (f.grown body.bytes .data)) u.remotePath = some g := hg
    rw [Function.update_self] at hself
    exact Option.some.inj hself
  have hdone : ∀ p ∈ done, p.InPlace s := by
    rcases h f hf with hlt | ⟨-, hdone⟩
    · omega
    · exact hdone
  refine .inr ⟨?_, fun p hp => ?_⟩
  · show ((f.content ++ body.bytes).length : Int) = u.size + body.bytes.length
    rw [List.length_append, hsize]; push_cast; rfl
  · rcases List.mem_append.mp hp with hp | hp
    · exact (hdone p hp).mono (List.subset_append_left _ _)
    · obtain rfl := List.mem_singleton.mp hp
      exact .inl (List.mem_append_right _ (List.mem_singleton_self _))

/-- The append of a part: either it is applied, or it is no success, and if it is refused for its offset the
file ends before the handle does. -/
theorem Counts.part {answer : Except Fault Response} (hs : Counts s u done)
    (h : Shared u.lease (u.partRequest body) s answer t) (r : Except Fault Unit) :
    s.applied ⊆ t.applied ∧ Counts t (u.extend body.bytes.length)
      (done ++ [⟨u, body, body.bytes.length, r⟩]) ∧
      (u.partRequest body ∈ t.applied ∧ (∀ f, ¬ RefusesOffset answer f) ∨
        (∀ x, settle true answer ≠ .ok x) ∧
          ∀ f, RefusesOffset answer f → ∀ g, t.Holds u g → (g.content.length : Int) < u.size) := by
  obtain ⟨a, s', t', rfl, hbefore, hexchanged, hafter⟩ := h
  have hs' := hs.meddled hbefore
  have happended := hexchanged.appended
  refine ⟨?_, ?_, ?_⟩
  · rw [hafter.applied_eq, ← hbefore.applied_eq]
    exact happended.applied_subset
  · refine Counts.meddled (u := u.extend body.bytes.length) ?_ hafter
    cases happended with
    | applied hf hsize _ => exact hs'.applied body r hf hsize
    | missed _ => exact hs'.missed body r
  · rw [hafter.applied_eq]
    cases happended with
    | applied _ _ hsuccess =>
      refine .inl ⟨List.mem_append_right _ (List.mem_singleton_self _), fun f hrefuses => ?_⟩
      obtain ⟨x, hx, -, hfail, -⟩ := refusesOffset_heard_iff.mp ⟨f, hrefuses⟩
      rw [hsuccess x hx] at hfail
      cases hfail
    | missed hmissed =>
      refine .inr ⟨fun x => settle_ne_ok hmissed, fun f hrefuses g hg => ?_⟩
      obtain ⟨x, hx, h400, -⟩ := refusesOffset_heard_iff.mp ⟨f, hrefuses⟩
      have hg' := hafter.holds hg
      rcases hmissed x hx with h404 | ⟨-, hplace⟩
      · omega
      · have hne := hplace g hg'
        rcases hs' g hg' with hlt | ⟨heq, -⟩
        · exact hlt
        · exact absurd heq.symm hne

/-- A close that succeeds finds the file where the handle ends. -/
theorem Shared.close {answer : Except Fault Response} (h : Shared u.lease u.closeRequest s answer t) :
    s.applied ⊆ t.applied ∧ ((∃ f, s.Holds u f ∧ u.size = f.content.length) ∨
      (∀ f, t.Holds u f → s.Holds u f) ∧ ∀ x, settle false answer ≠ .ok x) := by
  obtain ⟨a, s', t', rfl, hbefore, hexchanged, hafter⟩ := h
  have happended := hexchanged.appended
  refine ⟨?_, ?_⟩
  · rw [hafter.applied_eq, ← hbefore.applied_eq]
    exact happended.applied_subset
  · cases happended with
    | applied hf hsize _ => exact .inl ⟨_, hbefore.holds hf, hsize⟩
    | missed hmissed =>
      exact .inr ⟨fun f hf => hbefore.holds (hafter.holds hf), fun x => settle_ne_ok hmissed⟩

/-! ### The calls -/

theorem exists_of_unprobed_eq_ok {x : Except Fault Response} (h : u.unprobed x = .ok ()) :
    ∃ y, x = .ok y := by
  unfold unprobed at h
  split at h
  · exact ⟨_, rfl⟩
  · cases h
  · cases h

theorem exists_of_probeOutcome_eq_ok {f : RemoteFailure} {x : Except Fault Response}
    (h : probeOutcome f (probed x) = .ok ()) : ∃ y, x = .ok y := by
  unfold probed at h
  split at h
  · exact ⟨_, rfl⟩
  · cases h
  · cases h

/-- One part: if its call returns it was applied, and the handle goes on to count what is in the file. -/
theorem Counts.adds (hs : Counts s u done)
    (h : Adds (Shared u.lease) u body body.bytes.length s r t) :
    s.applied ⊆ t.applied ∧ Counts t (u.extend body.bytes.length)
      (done ++ [⟨u, body, body.bytes.length, r⟩]) ∧
      (r = .ok () → u.partRequest body ∈ t.applied) := by
  cases h with
  | answered hshared hplain =>
    obtain ⟨hsubset, hcounts, hcases⟩ := hs.part hshared _
    refine ⟨hsubset, hcounts, fun hr => ?_⟩
    rcases hcases with ⟨hmem, -⟩ | ⟨hfail, -⟩
    · exact hmem
    · obtain ⟨x, hx⟩ := exists_of_unprobed_eq_ok hr
      exact absurd hx (hfail x)
  | @probed answer probe f s' _ hshared hrefuses hprobe =>
    obtain ⟨hsubset, -, hcases⟩ := hs.part hshared (.ok ())
    have hbehind : ∀ g, s'.Holds u g → (g.content.length : Int) < u.size := by
      rcases hcases with ⟨-, hnone⟩ | ⟨-, hbehind⟩
      · exact absurd hrefuses (hnone f)
      · exact hbehind f hrefuses
    have hsize : (u.extend body.bytes.length).size = u.size + body.bytes.length := rfl
    -- the probe goes beyond the end of the file, so it cannot succeed
    obtain ⟨hsubset', ⟨g, hg, hend⟩ | ⟨hholds, hfail⟩⟩ :=
      Shared.close (u := u.extend body.bytes.length) hprobe
    · have := hbehind g hg
      omega
    · refine ⟨List.Subset.trans hsubset hsubset', fun g hg => .inl ?_, fun hr => ?_⟩
      · have := hbehind g (hholds g hg)
        omega
      · obtain ⟨x, hx⟩ := exists_of_probeOutcome_eq_ok hr
        exact absurd hx (hfail x)

theorem Counts.passes (h : Passes (Shared lease) u s parts v t) (hlease : u.lease = lease)
    (hsizes : ∀ p ∈ parts, p.size = p.body.bytes.length) (hs : Counts s u done) :
    v.lease = lease ∧ s.applied ⊆ t.applied ∧ Counts t v (done ++ parts) ∧
      ∀ p ∈ parts, p.result = .ok () → p.request ∈ t.applied := by
  induction h generalizing done with
  | nil =>
    exact ⟨hlease, List.Subset.refl _, by rwa [List.append_nil], fun _ hp => absurd hp List.not_mem_nil⟩
  | @cons u v s s' t body size r parts hadd _ ih =>
    subst hlease
    obtain ⟨hsize, hrest⟩ := List.forall_mem_cons.mp hsizes
    obtain rfl : size = body.bytes.length := hsize
    obtain ⟨hsubset, hcounts, hreturned⟩ := hs.adds (runs_addPart.mp hadd)
    obtain ⟨hlease, hsubset', hcounts', hreturned'⟩ := ih rfl hrest hcounts
    rw [List.append_assoc, List.singleton_append] at hcounts'
    refine ⟨hlease, List.Subset.trans hsubset hsubset', hcounts', ?_⟩
    exact List.forall_mem_cons.mpr ⟨fun hr => hsubset' (hreturned hr), hreturned'⟩

/-- An upload begins with an empty file under its lease. -/
theorem counts_begin {b : Backend} {key : String}
    (h : Runs (P := Remote.protocol) (Shared u.lease) (b.beginUpload key).run s (.ok u) t) :
    Counts t u [] := by
  obtain ⟨⟨serial, rfl⟩, _, x, ⟨a, s', t', rfl, -, hexchanged, hafter⟩, ha⟩ := begun_of_runs h
  obtain ⟨rfl, -⟩ := Remote.settle_heard_eq_ok.mp ha
  refine Counts.meddled ?_ hafter
  cases hexchanged with
  | answered _ =>
    rintro f ⟨hf, -⟩
    rw [Scene.serve, Lease.serve_createRequest] at hf
    dsimp only at hf
    rw [Function.update_self] at hf
    obtain rfl := Option.some.inj hf
    exact .inr ⟨rfl, fun _ hp => absurd hp List.not_mem_nil⟩

/-- What a commit that returns tells of the parts: those whose calls returned were applied. No other part is
missing, either, unless the commit found no file. -/
theorem committed_parts {b : Backend} {key : String} {files : Files} {s₁ s₂ s₃ : Scene}
    (hbegin : Runs (P := Remote.protocol) (Shared u.lease) (b.beginUpload key).run ⟨files, []⟩ (.ok u) s₁)
    (hparts : Passes (Shared u.lease) u s₁ parts v s₂) (hsizes : ∀ p ∈ parts, p.size = p.body.bytes.length)
    (hcommit : Runs (P := Remote.protocol) (Shared u.lease) (Backend.commitUpload (.upload v)).run s₂
      (.ok ()) s₃) :
    (∀ p ∈ parts, p.result = .ok () → p.request ∈ s₃.applied) ∧
      ((∀ p ∈ parts, p.request ∈ s₃.applied ∨ p.body.bytes = []) ∨
        ∃ x, Shared u.lease v.closeRequest s₂ (.ok x) s₃ ∧ x.status = 404) := by
  obtain ⟨hlease, -, hcounts, hreturned⟩ := (counts_begin hbegin).passes hparts rfl hsizes
  obtain ⟨answer, hshared, hr⟩ := runs_commitUpload.mp hcommit
  rw [← hlease] at hshared
  obtain ⟨hsubset, hcases⟩ := Shared.close hshared
  refine ⟨fun p hp hresult => hsubset (hreturned p hp hresult), ?_⟩
  rcases hcases with ⟨f, hf, hsize⟩ | ⟨-, hfail⟩
  · left
    rcases hcounts f hf with hlt | ⟨-, hplace⟩
    · omega
    · exact fun p hp => (hplace p (by simpa using hp)).mono hsubset
  · right
    obtain ⟨a, _, _, rfl, -⟩ := id hshared
    cases ha : settle false (heard a) with
    | ok x => exact absurd ha (hfail x)
    | error fault =>
      rw [ha, committed] at hr
      split at hr
      next hmissing =>
        rw [isMissing_eq] at hmissing
        obtain ⟨x, rfl, h404⟩ := (Remote.isMissing_settle_heard ha).mp hmissing
        exact ⟨x, hlease ▸ hshared, h404⟩
      next => cases hr

/-! ### Two uploads -/

/-- The scene after the file of an upload was deleted. -/
def Scene.bereft (s : Scene) (u : Upload) : Scene :=
  { s with files := Function.update s.files u.remotePath none }

theorem meddled_bereft (s : Scene) (u : Upload) : Meddled lease s (s.bereft u) :=
  .step (q := Backend.deleteRequest u.remotePath) (.inl rfl) .refl

/-- The failure to find a file. -/
def notFound : Response where
  operation := .append
  status := 404
  body := Utf8.encode "\x7b\"RemoteException\":\x7b\"exception\":\"FileNotFoundException\"\x7d\x7d"

theorem shared_bereft (s : Scene) (u : Upload) (offset : Option Int) (flag : SyncFlag) (body : Blob.Content) :
    Shared lease (u.appendRequest offset flag body) s (heard (.ok notFound)) (s.bereft u) := by
  have habsent : (s.bereft u).files u.remotePath = none := Function.update_self ..
  have hserve := serve_absent u offset flag body habsent
  have hscene : (s.bereft u).serve (u.appendRequest offset flag body) = s.bereft u := by
    rw [Scene.serve, hserve]; rfl
  have htells : (Lease.serve (u.appendRequest offset flag body) (s.bereft u).files).1.Tells notFound := by
    rw [hserve]; rfl
  have hexchanged := Exchanged.answered htells
  rw [hscene] at hexchanged
  exact ⟨.ok notFound, _, _, rfl, meddled_bereft s u, hexchanged, .refl⟩

/-- A part before which the file is deleted. -/
theorem exists_add_bereft (s : Scene) (u : Upload) (body : Blob.Content) (size : Int) :
    ∃ e, Runs (P := Remote.protocol) (Shared u.lease) (Backend.addPart (.upload u) body size).2.run s
      (.error (.store e)) (s.bereft u) := by
  have hadd :
      Adds (Shared u.lease) u body size s (u.unprobed (settle true (heard (.ok notFound)))) (s.bereft u) := by
    refine .answered (shared_bereft s u _ _ _) fun f hrefuses => ?_
    obtain ⟨x, hx, h400, -⟩ := refusesOffset_heard_iff.mp ⟨f, hrefuses⟩
    obtain rfl := Except.ok.inj hx
    exact absurd h400 (by decide)
  rcases unprobed_heard (u := u) (a := .ok notFound) with ⟨-, x, hx, hsuccess, -⟩ | ⟨e, he, -⟩
  · obtain rfl := Except.ok.inj hx
    exact absurd hsuccess (by decide)
  · rw [he] at hadd
    exact ⟨e, runs_addPart.mpr hadd⟩

/-- A commit before which the file is deleted. -/
theorem runs_commit_bereft (lease : String) (s : Scene) (u : Upload) :
    Runs (P := Remote.protocol) (Shared lease) (Backend.commitUpload (.upload u)).run s (.ok ())
      (s.bereft u) :=
  runs_commitUpload.mpr ⟨_, shared_bereft s u _ _ _, rfl⟩

theorem exists_begin_shared (b : Backend) (key : String) (files : Files) :
    ∃ u s, Runs (P := Remote.protocol) (Shared u.lease) (b.beginUpload key).run ⟨files, []⟩ (.ok u) s ∧
      s.Holds u ⟨[], some u.lease, some u.lease⟩ ∧ u.size = 0 ∧ ∀ q ∈ s.applied, q.operation = .create := by
  let q := createRequest b.account.filePermission (b.path key) (Identifier.numbered 1)
  have hserve : Lease.serve q files = _ :=
    Lease.serve_createRequest b.account.filePermission (b.path key) (Identifier.numbered 1)
  have htells : (Lease.serve q files).1.Tells { operation := .create, status := 201 } := by rw [hserve]; rfl
  refine ⟨_, _, runs_beginUpload.mpr ⟨1, _, ⟨.ok { operation := .create, status := 201 }, _, _, rfl, .refl,
    .answered htells, .refl⟩, rfl⟩, ⟨?_, rfl⟩, rfl, ?_⟩
  · rw [Scene.serve, hserve]
    exact Function.update_self ..
  · rw [Scene.serve, hserve]
    rintro q hq
    obtain rfl : q = _ := by simpa using hq
    rfl

/-- A part that is passed on where the file ends is applied. -/
theorem exists_add_shared (hf : s.Holds u f) (hsize : u.size = f.content.length) (body : Blob.Content) :
    ∃ t, Runs (P := Remote.protocol) (Shared u.lease)
      (Backend.addPart (.upload u) body body.bytes.length).2.run s
        (.ok ()) t ∧
      t.Holds (u.extend body.bytes.length) (f.grown body.bytes .data) ∧
      (u.extend body.bytes.length).size = (f.grown body.bytes .data).content.length := by
  have hserve := Lease.serve_applied u (some u.size) .data body hf.1 hf.2 fun n hn => by
    rw [← Option.some.inj hn, hsize]
  have htells :
      (Lease.serve (u.partRequest body) s.files).1.Tells { operation := .append, status := 200 } := by
    rw [partRequest, hserve]; rfl
  have hshared : Shared u.lease (u.partRequest body) s (heard (.ok { operation := .append, status := 200 }))
      (s.serve (u.partRequest body)) := ⟨_, _, _, rfl, .refl, .answered htells, .refl⟩
  refine ⟨_, runs_addPart.mpr (.answered hshared ?_), ⟨?_, hf.2⟩, ?_⟩
  · rintro f ⟨hfail, -⟩
    cases hfail
  · rw [Scene.serve, partRequest, hserve]
    exact Function.update_self ..
  · show u.size + (body.bytes.length : Int) = (f.content ++ body.bytes).length
    rw [hsize, List.length_append]; push_cast; rfl

/-- Two parts are appended, and the file is deleted before the commit. -/
theorem committed_parts_deleted :
    ∃ (u v : Upload) (s₁ s₂ s₃ : Scene) (parts : List Part),
      Runs (P := Remote.protocol) (Shared u.lease) (Backend.beginUpload ⟨{ endpoint := "a.b" }, 0⟩ "k").run
        ⟨fun _ => none, []⟩ (.ok u) s₁ ∧
      Passes (Shared u.lease) u s₁ parts v s₂ ∧ parts.map (fun p => p.body.bytes) = [[97], [98, 99]] ∧
      Runs (P := Remote.protocol) (Shared u.lease) (Backend.commitUpload (.upload v)).run s₂ (.ok ()) s₃ ∧
      s₃.files v.remotePath = none ∧ ∀ p ∈ parts, p.request ∈ s₃.applied := by
  obtain ⟨u, s₁, hbegin, hf, hsize, -⟩ := exists_begin_shared ⟨{ endpoint := "a.b" }, 0⟩ "k" fun _ => none
  obtain ⟨t, hfirst, hf, hsize⟩ := exists_add_shared hf hsize (.whole [97])
  obtain ⟨s₂, hsecond, -, -⟩ := exists_add_shared hf hsize (.chunked [[98], [99]])
  have hparts := Passes.cons hfirst (.cons hsecond .nil)
  have hcommit := runs_commit_bereft u.lease s₂ ((u.extend 1).extend 2)
  refine ⟨u, _, s₁, s₂, _, _, hbegin, hparts, rfl, hcommit, Function.update_self .., ?_⟩
  have hcommitted := committed_parts hbegin hparts (by simp) hcommit
  exact fun p hp => hcommitted.1 p hp (by simp at hp; rcases hp with rfl | rfl <;> rfl)

/-- A file is deleted before the only part is appended: the call on the part fails, and the commit returns
all the same. The part was never in the file. -/
theorem committed_without_part :
    ∃ (u v : Upload) (s₁ s₂ s₃ : Scene) (p : Part),
      Runs (P := Remote.protocol) (Shared u.lease) (Backend.beginUpload ⟨{ endpoint := "a.b" }, 0⟩ "k").run
        ⟨fun _ => none, []⟩ (.ok u) s₁ ∧
      Passes (Shared u.lease) u s₁ [p] v s₂ ∧ p.body.bytes = [97, 98, 99] ∧ p.size = 3 ∧
      (∃ e, p.result = .error (.store e)) ∧
      Runs (P := Remote.protocol) (Shared u.lease) (Backend.commitUpload (.upload v)).run s₂ (.ok ()) s₃ ∧
      p.request ∉ s₃.applied := by
  obtain ⟨u, s₁, hbegin, -, -, hcreate⟩ := exists_begin_shared ⟨{ endpoint := "a.b" }, 0⟩ "k" fun _ => none
  obtain ⟨e, hadd⟩ := exists_add_bereft s₁ u (.whole [97, 98, 99]) 3
  have hcommit := runs_commit_bereft u.lease (s₁.bereft u) (u.extend 3)
  refine ⟨u, _, s₁, _, _, _, hbegin, .cons hadd .nil, rfl, rfl, ⟨e, rfl⟩, hcommit, fun hmem => ?_⟩
  have hop := hcreate _ hmem
  simp [Part.request, partRequest, appendRequest] at hop

end LakeStore.Upload
