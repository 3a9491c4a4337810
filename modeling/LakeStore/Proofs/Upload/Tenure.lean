import LakeStore.Proofs.Lease
import LakeStore.Proofs.Upload.Parts

/-!
How long the lease of an upload is held.

While parts are passed on, the file is closed, and the lease given up, in one case only: to find out whether
a part is in the file that was refused for its offset. If it is, the part counts as appended, and no other
part can follow it.
-/

namespace LakeStore.Upload

open Dialogue
open Lease (Files param serve)
open Remote (Request SyncFlag Exchange Says settle heard scripted)

variable {u v : Upload} {lease : String} {body : Blob.Content} {size : Int} {r : Except Fault Unit}
  {x y : Exchange} {s t xs : List Exchange} {parts : List Part}

/-- A request that creates the empty file of an upload under its lease. -/
structure Creates (u : Upload) (q : Request) : Prop where
  operation : q.operation = .create
  path : q.path = u.remotePath
  lease : param "leaseid" q = some u.lease
  flag : param "syncFlag" q = some "DATA"
  content : q.content = some (.whole [])

/-- A request that appends to the file of an upload under its lease. -/
structure Appends (u : Upload) (offset : Option Int) (flag : String) (body : Blob.Content)
    (q : Request) : Prop where
  operation : q.operation = .append
  path : q.path = u.remotePath
  lease : param "leaseid" q = some u.lease
  session : param "filesessionid" q = some u.lease
  offset : param "offset" q = offset.map toString
  flag : param "syncFlag" q = some flag
  content : q.content = some body

/-- A request that gives a lease up. -/
def Releases (lease : String) (q : Request) : Prop :=
  param "leaseid" q = some lease ∧ param "syncFlag" q = some "CLOSE"

/-- A request under which every file that is written under a lease goes on to be. -/
def Keeps (lease : String) (q : Request) : Prop :=
  ∀ (files : Files) path f, files path = some f → f.lease = some lease →
    ∃ g, (serve q files).2 path = some g ∧ g.lease = some lease

/-- An append that is refused for its offset, and the probe for it: an append of nothing behind what was to
be appended, which closes the file. -/
def Probes (u : Upload) (x y : Exchange) : Prop :=
  RefusedForOffset x.answer ∧ ∃ offset size body, Appends u (some offset) "DATA" body x.request ∧
    Appends u (some (offset + size)) "CLOSE" (.whole []) y.request

/-- The files after some requests have been served. -/
def served (files : Files) (qs : List Request) : Files := qs.foldl (fun files q => (serve q files).2) files

/-! ### Requests -/

theorem creates_createRequest (permission : String) (u : Upload) :
    Creates u (createRequest permission u.remotePath u.lease) := by
  constructor <;> simp [param, createRequest, Entries.find?, SyncFlag.name]

theorem appends_appendRequest (offset : Option Int) (flag : SyncFlag) (body : Blob.Content) :
    Appends u offset flag.name body (u.appendRequest offset flag body) where
  operation := rfl
  path := rfl
  lease := Lease.param_leaseid u offset flag body
  session := by cases offset <;> simp [param, appendRequest, Entries.find?]
  offset := Lease.param_offset u offset flag body
  flag := Lease.param_syncFlag u offset flag body
  content := rfl

theorem appends_partRequest : Appends u (some u.size) "DATA" body (u.partRequest body) :=
  appends_appendRequest _ .data body

theorem appends_closeRequest : Appends u (some u.size) "CLOSE" (.whole []) u.closeRequest :=
  appends_appendRequest _ .close _

/-- The requests of a handle depend on nothing but its path and its lease. -/
theorem Appends.resized {offset : Option Int} {flag : String} {q : Request} {size : Int}
    (h : Appends { u with size := size } offset flag body q) : Appends u offset flag body q := by
  obtain ⟨operation, path, lease, session, hoffset, hflag, content⟩ := h
  exact ⟨operation, path, lease, session, hoffset, hflag, content⟩

theorem Creates.not_releases {q : Request} (h : Creates u q) : ¬ Releases lease q := fun hrel =>
  absurd (Option.some.inj (h.flag.symm.trans hrel.2)) (by decide)

theorem Appends.not_releases {offset : Option Int} {q : Request} (h : Appends u offset "DATA" body q) :
    ¬ Releases lease q := fun hrel =>
  absurd (Option.some.inj (h.flag.symm.trans hrel.2)) (by decide)

theorem Appends.releases {offset : Option Int} {q : Request} (h : Appends u offset "CLOSE" body q) :
    Releases u.lease q :=
  ⟨h.lease, h.flag⟩

/-- An append under the lease of a file may be misplaced, but its lease is the current one. -/
theorem Appends.not_leaseless {offset : Option Int} {flag : String} {q : Request} {files : Files}
    {f : Lease.File} (h : Appends u offset flag body q) (hf : files u.remotePath = some f)
    (hlease : f.lease = some u.lease) : (serve q files).1 ≠ .leaseless := by
  have hjudge : f.judge q ≠ .leaseless := by
    rw [Lease.File.judge, h.lease, hlease, if_neg (by simp)]
    split <;> decide
  rw [serve, h.operation, h.path]
  simp only [hf]
  split
  · show Lease.Verdict.applied ≠ .leaseless
    decide
  · exact hjudge

theorem keeps_createRequest {permission path : String} :
    Keeps lease (createRequest permission path lease) := by
  intro files p f hf hlease
  rw [Lease.serve_createRequest]
  by_cases hp : p = path
  · subst hp
    exact ⟨_, Function.update_self .., rfl⟩
  · exact ⟨f, (Function.update_of_ne hp ..).trans hf, hlease⟩

theorem keeps_partRequest : Keeps lease (u.partRequest body) := by
  intro files p f hf hlease
  rcases Lease.serve_appendRequest_cases u (some u.size) .data body files with hs | ⟨g, hg, hl, -, hs⟩
  · exact ⟨f, by rw [partRequest, hs, hf], hlease⟩
  · rw [partRequest, hs]
    by_cases hp : p = u.remotePath
    · subst hp
      obtain rfl := Option.some.inj (hf.symm.trans hg)
      exact ⟨_, Function.update_self .., hlease⟩
    · exact ⟨f, (Function.update_of_ne hp ..).trans hf, hlease⟩

theorem keeps_served {qs : List Request} (hqs : ∀ q ∈ qs, Keeps lease q) {files : Files} {path : String}
    {f : Lease.File} (hf : files path = some f) (hlease : f.lease = some lease) :
    ∃ g, served files qs path = some g ∧ g.lease = some lease := by
  induction qs generalizing files f with
  | nil => exact ⟨f, hf, hlease⟩
  | cons q qs ih =>
    obtain ⟨g, hg, hkept⟩ := hqs q List.mem_cons_self files path f hf hlease
    exact ih (fun q hq => hqs q (List.mem_cons_of_mem _ hq)) hg hkept

/-! ### The exchanges of an upload that is not ended yet -/

/-- The exchanges in which parts are passed on, once `sum` bytes were declared. Each part is appended behind
those before it. Right after an append that is refused for its offset, and nowhere else, the file is closed
behind the part. -/
inductive Held (u : Upload) : Int → List Part → List Exchange → Prop
  | nil {sum : Int} : Held u sum [] []
  | kept {sum : Int} {part : Part} {parts : List Part} {x : Exchange} {xs : List Exchange} :
      Appends u (some sum) "DATA" part.body x.request → Keeps u.lease x.request →
      ¬ RefusedForOffset x.answer →
      Held u (sum + part.size) parts xs → Held u sum (part :: parts) (x :: xs)
  | probed {sum : Int} {part : Part} {parts : List Part} {x y : Exchange} {xs : List Exchange} :
      Appends u (some sum) "DATA" part.body x.request → Keeps u.lease x.request → RefusedForOffset x.answer →
      Appends u (some (sum + part.size)) "CLOSE" (.whole []) y.request →
      Held u (sum + part.size) parts xs → Held u sum (part :: parts) (x :: y :: xs)

/-- One part has one exchange or two. -/
theorem held_addPart {sum : Int} (h : Adds scripted { u with size := sum } body size s r t)
    (ht : Held u (sum + size) parts t) : Held u sum (⟨{ u with size := sum }, body, size, r⟩ :: parts) s := by
  cases h with
  | answered hserves hplain =>
    obtain ⟨a, rfl, rfl⟩ := hserves
    exact .kept appends_partRequest.resized keeps_partRequest
      (fun hrefused => (refusesOffset_heard_iff.mpr hrefused).elim hplain) ht
  | probed hserves hrefuses hprobe =>
    obtain ⟨a, rfl, rfl⟩ := hserves
    obtain ⟨p, rfl, rfl⟩ := hprobe
    exact .probed appends_partRequest.resized keeps_partRequest (refusesOffset_heard_iff.mp ⟨_, hrefuses⟩)
      appends_closeRequest.resized ht

theorem held_passes {sum : Int} {w : Upload} (h : Passes scripted w s parts v t)
    (hw : w = { u with size := sum }) (ht : t = []) : Held u sum parts s := by
  induction h generalizing sum with
  | nil => exact ht ▸ .nil
  | cons hadd _ ih =>
    subst hw
    exact held_addPart (runs_addPart.mp hadd) (ih rfl ht)

theorem eq_of_passes {w : Upload} (h : Passes scripted w s parts v t) : v = { w with size := v.size } := by
  induction h with
  | nil => rfl
  | cons _ _ ih => exact ih

/-- What precedes a probe still does so behind one more exchange. -/
theorem probed_cons {A : Prop} {before : List Exchange} (z : Exchange)
    (h : A ∨ Releases u.lease x.request ∧ ∃ earlier y, before = earlier ++ [y] ∧ Probes u y x) :
    A ∨ Releases u.lease x.request ∧ ∃ earlier y, z :: before = earlier ++ [y] ∧ Probes u y x := by
  refine h.imp_right ?_
  rintro ⟨hreleases, earlier, y, rfl, hprobes⟩
  exact ⟨hreleases, z :: earlier, y, rfl, hprobes⟩

/-- Where the lease is given up, an append was refused just before; and where one is refused, it is given up
next. -/
theorem Held.split {sum : Int} (h : Held u sum parts xs) :
    ∀ {before later : List Exchange}, xs = before ++ x :: later →
    (¬ Releases u.lease x.request ∧ Keeps u.lease x.request ∧
        (RefusedForOffset x.answer → ∃ y rest, later = y :: rest ∧ Probes u x y)) ∨
      Releases u.lease x.request ∧ ∃ earlier y, before = earlier ++ [y] ∧ Probes u y x := by
  induction h with
  | nil => intro before later hxs; simp at hxs
  | kept hx hkeeps hplain _ ih =>
    intro before later hxs
    cases before with
    | nil =>
      obtain ⟨rfl, -⟩ := List.cons.inj hxs
      exact .inl ⟨hx.not_releases, hkeeps, fun hrefused => absurd hrefused hplain⟩
    | cons z before =>
      exact probed_cons z (ih (List.cons.inj hxs).2)
  | @probed _ _ _ x' y' _ hx hkeeps hrefused hy _ ih =>
    intro before later hxs
    have hprobes : Probes u x' y' := ⟨hrefused, _, _, _, hx, hy⟩
    match before with
    | [] =>
      obtain ⟨rfl, rfl⟩ := List.cons.inj hxs
      exact .inl ⟨hx.not_releases, hkeeps, fun _ => ⟨y', _, rfl, hprobes⟩⟩
    | [z] =>
      obtain ⟨rfl, hrest⟩ := List.cons.inj hxs
      obtain ⟨rfl, -⟩ := List.cons.inj hrest
      exact .inr ⟨hy.releases, [], _, rfl, hprobes⟩
    | z :: z' :: before =>
      have hrest := (List.cons.inj (List.cons.inj hxs).2).2
      exact probed_cons z (probed_cons z' (ih hrest))

/-- An upload begins with one exchange, in which its file is created. -/
theorem begun_eq {b : Backend} {key : String} (h : Says (b.beginUpload key) s (.ok u)) : u.size = 0 ∧
    ∃ create, s = [create] ∧ Creates u create.request ∧ Keeps u.lease create.request ∧
      ¬ RefusedForOffset create.answer := by
  obtain ⟨⟨serial, hu⟩, _, response, ⟨a, rfl, rfl⟩, ha⟩ := begun_of_runs h
  obtain ⟨rfl, hsuccess⟩ := Remote.settle_heard_eq_ok.mp ha
  have hpath : u.remotePath = b.path key := by rw [hu]
  refine ⟨by rw [hu], _, rfl, hpath ▸ creates_createRequest _ u, keeps_createRequest, ?_⟩
  rintro ⟨_, hresponse, -, hfail, -⟩
  cases hresponse
  rw [hsuccess] at hfail
  cases hfail

/-- The exchanges from the beginning of an upload on, where it has not ended yet. -/
theorem split_of_begun {create : Exchange} (hcreates : Creates u create.request)
    (hkeeps : Keeps u.lease create.request) (hplain : ¬ RefusedForOffset create.answer) {sum : Int}
    (hheld : Held u sum parts xs) {before later : List Exchange}
    (hxs : [create] ++ xs = before ++ x :: later) :
    (¬ Releases u.lease x.request ∧ Keeps u.lease x.request ∧
        (RefusedForOffset x.answer → ∃ y rest, later = y :: rest ∧ Probes u x y)) ∨
      Releases u.lease x.request ∧ ∃ earlier y, before = earlier ++ [y] ∧ Probes u y x := by
  cases before with
  | nil =>
    obtain ⟨rfl, -⟩ := List.cons.inj hxs
    exact .inl ⟨hcreates.not_releases, hkeeps, fun hrefused => absurd hrefused hplain⟩
  | cons z before =>
    exact probed_cons z (hheld.split (List.cons.inj hxs).2)

/-- Where no append is refused for its offset, no request gives the lease up. -/
theorem Held.keeps {sum : Int} (h : Held u sum parts xs) (hplain : ∀ x ∈ xs, ¬ RefusedForOffset x.answer) :
    ∀ x ∈ xs, Keeps u.lease x.request := by
  induction h with
  | nil => exact fun _ hx => absurd hx List.not_mem_nil
  | kept _ hkeeps _ _ ih =>
    exact List.forall_mem_cons.mpr ⟨hkeeps, ih fun x hx => hplain x (List.mem_cons_of_mem _ hx)⟩
  | probed _ _ hrefused => exact absurd hrefused (hplain _ List.mem_cons_self)

/-- While parts are passed on, a lease is given up only to find out about an append that was refused for its
offset, and then it is, by the next request; every other request keeps it. As long as no append was refused,
a file that is under the lease stays under it whichever of the requests arrive, and the append of one more
part finds it so. -/
theorem releases_only_to_probe {b : Backend} {key : String} {begun xs : List Exchange}
    (hbegin : Says (b.beginUpload key) begun (.ok u)) (hparts : Passes scripted u xs parts v []) :
    (∃ create, begun = [create] ∧ Creates u create.request) ∧ Held u 0 parts xs ∧
    (∀ before x later, begun ++ xs = before ++ x :: later →
      (¬ Releases u.lease x.request ∧ Keeps u.lease x.request ∧
          (RefusedForOffset x.answer → ∃ y rest, later = y :: rest ∧ Probes u x y)) ∨
        Releases u.lease x.request ∧ ∃ earlier y, before = earlier ++ [y] ∧ Probes u y x) ∧
    ((∀ x ∈ xs, ¬ RefusedForOffset x.answer) → ∀ qs files f, qs.Sublist ((begun ++ xs).map Exchange.request) →
      files u.remotePath = some f → f.lease = some u.lease →
      (∃ g, served files qs u.remotePath = some g ∧ g.lease = some u.lease) ∧
        ∀ body size zs r, Says (Backend.addPart (.upload v) body size).2 zs r →
          ∃ x rest, zs = x :: rest ∧ (serve x.request (served files qs)).1 ≠ .leaseless) := by
  obtain ⟨hsize, create, rfl, hcreates, hkeeps, hplain⟩ := begun_eq hbegin
  have hheld : Held u 0 parts xs := held_passes hparts (by rw [← hsize]) rfl
  refine ⟨⟨create, rfl, hcreates⟩, hheld, fun _ _ _ => split_of_begun hcreates hkeeps hplain hheld, ?_⟩
  intro hnever qs files f hqs hf hlease
  have hall : ∀ q ∈ qs, Keeps u.lease q := fun q hq => by
    obtain ⟨x, hx, rfl⟩ := List.mem_map.mp (hqs.subset hq)
    rcases List.mem_cons.mp hx with rfl | hx
    · exact hkeeps
    · exact hheld.keeps hnever x hx
  obtain ⟨g, hg, hkept⟩ := keeps_served hall hf hlease
  refine ⟨⟨g, hg, hkept⟩, fun body size zs r hadd => ?_⟩
  have hnext : Held u v.size _ zs :=
    held_passes (.cons hadd .nil) (eq_of_passes hparts) rfl
  cases hnext with
  | kept hx => exact ⟨_, _, rfl, hx.not_leaseless hg hkept⟩
  | probed hx => exact ⟨_, _, rfl, hx.not_leaseless hg hkept⟩

/-! ### Two uploads -/

theorem says_addPart_appended (u : Upload) (body : Blob.Content) (size : Int) (ys : List Exchange) :
    Runs (P := Remote.protocol) scripted (Backend.addPart (.upload u) body size).2.run
      (⟨u.partRequest body, .ok { operation := .append, status := 200 }⟩ :: ys) (.ok ()) ys := by
  have hadd : Adds scripted u body size _ _ ys :=
    .answered ⟨.ok { operation := .append, status := 200 }, rfl, rfl⟩ fun f hf => by cases hf.1
  exact runs_addPart.mpr hadd

theorem says_addPart_landed (u : Upload) (body : Blob.Content) (size : Int) (ys : List Exchange) :
    Runs (P := Remote.protocol) scripted (Backend.addPart (.upload u) body size).2.run
      (⟨u.partRequest body, .ok offsetRefusal⟩ ::
        ⟨(u.extend size).closeRequest, .ok { operation := .append, status := 200 }⟩ :: ys) (.ok ()) ys := by
  obtain ⟨f, hf⟩ := refusesOffset_heard_iff.mpr ⟨offsetRefusal, rfl, rfl, names_offsetRefusal⟩
  have hadd : Adds scripted u body size _ _ ys :=
    .probed ⟨.ok offsetRefusal, rfl, rfl⟩ hf ⟨.ok { operation := .append, status := 200 }, rfl, rfl⟩
  exact runs_addPart.mpr hadd

theorem says_beginUpload_created (b : Backend) (key : String) (serial : Nat) :
    Says (b.beginUpload key)
      [⟨createRequest b.account.filePermission (b.path key) (Identifier.numbered serial),
        .ok { operation := .create, status := 201 }⟩]
      (.ok { key, remotePath := b.path key, lease := Identifier.numbered serial }) :=
  runs_beginUpload.mpr ⟨serial, heard (.ok { operation := .create, status := 201 }), ⟨_, rfl, rfl⟩, rfl⟩

theorem exists_begun (b : Backend) (key : String) : ∃ begun u, Says (b.beginUpload key) begun (.ok u) :=
  ⟨_, _, says_beginUpload_created b key 1⟩

/-- A first part is appended, and a second one is refused and found in the file. -/
theorem releases_only_to_probe_second :
    ∃ (u v : Upload) (begun : List Exchange) (first second probe : Exchange) (parts : List Part),
      Says (Backend.beginUpload ⟨{ endpoint := "a.b" }, 0⟩ "k") begun (.ok u) ∧
      Passes scripted u [first, second, probe] parts v [] ∧ parts.map Part.result = [.ok (), .ok ()] ∧
      ¬ Releases u.lease first.request ∧ RefusedForOffset second.answer ∧
      Appends u (some 1) "DATA" (.whole [98]) second.request ∧
      Appends u (some 2) "CLOSE" (.whole []) probe.request ∧ Releases u.lease probe.request := by
  obtain ⟨begun, u, hbegin⟩ := exists_begun ⟨{ endpoint := "a.b" }, 0⟩ "k"
  have hparts := Passes.cons (says_addPart_appended u (.whole [97]) 1 _)
    (.cons (says_addPart_landed (u.extend 1) (.whole [98]) 1 []) .nil)
  obtain ⟨-, hheld, hsplit, -⟩ := releases_only_to_probe hbegin hparts
  have hrefused : RefusedForOffset (.ok offsetRefusal) := ⟨offsetRefusal, rfl, rfl, names_offsetRefusal⟩
  have hgranted : ¬ RefusedForOffset (.ok { operation := .append, status := 200 }) := by
    rintro ⟨_, hx, hstatus, -⟩
    cases hx
    exact absurd hstatus (by decide)
  refine ⟨u, _, begun, _, _, _, _, hbegin, hparts, rfl, ?_⟩
  cases hheld with
  | probed _ _ hfirst => exact absurd hfirst hgranted
  | kept hfirst _ _ hrest =>
    cases hrest with
    | kept _ _ hsecond => exact absurd hrefused hsecond
    | probed hsecond _ _ hprobe _ =>
      exact ⟨hfirst.not_releases, hrefused, hsecond, hprobe, hprobe.releases⟩

/-- A part that returns after its lease was given up: where the probe finds the part, no other part can
follow it. -/
theorem lease_given_up_in_mid_upload :
    ∃ (u : Upload) (begun xs : List Exchange),
      Says (Backend.beginUpload ⟨{ endpoint := "a.b" }, 0⟩ "k") begun (.ok u) ∧
      Says (Backend.addPart (.upload u) (.whole [97]) 1).2 xs (.ok ()) ∧
      (∃ x ∈ xs, Releases u.lease x.request) ∧
      ∀ (files : Files) (f : Lease.File) (body : Blob.Content), files u.remotePath = some f →
        f.lease = some u.lease → (f.content.length : Int) = u.size + 1 →
        (serve ((u.extend 1).partRequest body) (serve (u.extend 1).closeRequest files).2).1 = .leaseless := by
  obtain ⟨begun, u, hbegin⟩ := exists_begun ⟨{ endpoint := "a.b" }, 0⟩ "k"
  have hprobe : Releases u.lease (u.extend 1).closeRequest :=
    (appends_closeRequest (u := u.extend 1)).releases
  refine ⟨u, begun, _, hbegin, says_addPart_landed u (.whole [97]) 1 [], by simp [hprobe], ?_⟩
  intro files f body hf hlease hlength
  have hclose := Lease.serve_applied (u.extend 1) (some (u.extend 1).size) .close (.whole []) hf hlease
    fun n hn => by rw [← Option.some.inj hn, hlength]; rfl
  rw [closeRequest, hclose]
  dsimp only
  rw [partRequest, Lease.serve_appendRequest (u.extend 1) _ .data body (Function.update_self ..)]
  rfl

end LakeStore.Upload
