import LakeStore.Proofs.Lease
import LakeStore.Proofs.Upload.Calls

/-!
One upload as its caller drives it.

A caller begins, passes on any number of parts whatever became of the ones before, and then commits or gives
up at most once. Whatever the calls are answered, they ask for nothing but this: that the file be created
under the lease of the upload, that it be closed, and that a part be appended at the offset where all parts
passed on before it end.
-/

namespace LakeStore

open Dialogue
open Lease (File Files serve)
open Remote (Request SyncFlag settle)

namespace Upload

/-- Where the caller of an upload stands between two calls. -/
inductive Stage where
  | fresh
  | ready (h : Handle)
  | over

/-- One upload: the bodies of its parts in the order of the calls, the serial number that its lease was made
of, and what is left of the call in progress. -/
structure Session where
  bodies : List Bytes := []
  drawn : Option Nat := none
  task : Dialogue Remote.protocol Stage := .done .fresh

/-- The lease of an upload, once it has one. -/
def Session.lease (x : Session) : Option String := x.drawn.map Identifier.numbered

/-- A call, and where its caller stands after it. -/
def calling {α : Type} (task : Call α) (next : Except Fault α → Stage) : Dialogue Remote.protocol Stage :=
  task.run >>= fun r => .done (next r)

/-- A caller that could not begin has no handle. -/
def begun : Except Fault Upload → Stage
  | .ok u => .ready (.upload u)
  | .error _ => .over

/-- The calls that a caller may make. A part is passed on with the length of its body, and how a call ended
is of no consequence for the next one. -/
inductive Calls (b : Backend) (key : String) : Session → Session → Prop
  | begins {x : Session} : x.task = .done .fresh →
      Calls b key x { x with task := calling (b.beginUpload key) begun }
  | adds {x : Session} {h : Handle} (body : Blob.Content) : x.task = .done (.ready h) →
      Calls b key x
        { x with
          bodies := x.bodies ++ [body.bytes]
          task := calling (Backend.addPart h body body.bytes.length).2 fun _ =>
            .ready (Backend.addPart h body body.bytes.length).1 }
  | commits {x : Session} {h : Handle} : x.task = .done (.ready h) →
      Calls b key x { x with task := calling (Backend.commitUpload h) fun _ => .over }
  | aborts {x : Session} {h : Handle} : x.task = .done (.ready h) →
      Calls b key x { x with task := calling (Backend.abortUpload h) fun _ => .over }

/-! ### What an upload asks for -/

/-- The requests that an upload to a path may make under its lease, once some bodies were passed on. -/
inductive Legit (path lease : String) (bodies : List Bytes) : Request → Prop
  | creation (permission : String) : Legit path lease bodies (createRequest permission path lease)
  | closing (u : Upload) (offset : Option Int) (flag : SyncFlag) : u.remotePath = path → u.lease = lease →
      Legit path lease bodies (u.appendRequest offset flag)
  | part (u : Upload) (before : List Bytes) (flag : SyncFlag) (body : Blob.Content) : u.remotePath = path →
      u.lease = lease → before ++ [body.bytes] <+: bodies →
      Legit path lease bodies (u.appendRequest (some before.flatten.length) flag body)

theorem Legit.mono {path lease : String} {bodies more : List Bytes} (h : bodies <+: more) :
    ∀ {q : Request}, Legit path lease bodies q → Legit path lease more q
  | _, .creation permission => .creation permission
  | _, .closing u offset flag hp hl => .closing u offset flag hp hl
  | _, .part u before flag body hp hl hd => .part u before flag body hp hl (hd.trans h)

/-- A file that was appended to under a lease: if the first bodies were in it, they still are. -/
structure Grown (lease : String) (bodies : List Bytes) (f g : File) : Prop where
  held : f.lease = some lease
  origin : g.origin = f.origin
  lease : g.lease = none ∨ g.lease = f.lease
  content : f.content <+: bodies.flatten → g.content <+: bodies.flatten

/-- An append changes at most the file of its upload. -/
theorem append_files (u : Upload) (offset : Option Int) (flag : SyncFlag) (body : Blob.Content)
    {bodies : List Bytes} {files : Files} {path : String} {g : File}
    (hbody : ∀ f : File, (∀ n ∈ offset, n = f.content.length) → f.content <+: bodies.flatten →
      f.content ++ body.bytes <+: bodies.flatten)
    (hg : (serve (u.appendRequest offset flag body) files).2 path = some g) :
    files path = some g ∨ path = u.remotePath ∧ ∃ f, files path = some f ∧ Grown u.lease bodies f g := by
  rcases Lease.serve_appendRequest_cases u offset flag body files with hs | ⟨f, hf, hl, hn, hs⟩
  · rw [hs] at hg; exact .inl hg
  rw [hs] at hg
  by_cases hpath : path = u.remotePath
  · rw [hpath, Function.update_self] at hg
    obtain rfl := Option.some.inj hg
    refine .inr ⟨hpath, f, hpath ▸ hf, hl, rfl, ?_, hbody f hn⟩
    cases flag with
    | close => exact .inl rfl
    | _ => exact .inr rfl
  · rw [Function.update_of_ne hpath] at hg; exact .inl hg

/-- A legitimate request that is applied changes at most the file of its upload: it empties that file, or it
appends to it the next of the bodies or none. -/
theorem Legit.files {path lease : String} {bodies : List Bytes} {q : Request} (h : Legit path lease bodies q)
    {files : Files} {p : String} {g : File} (hg : (serve q files).2 p = some g) :
    files p = some g ∨
      p = path ∧ (g = ⟨[], some lease, some lease⟩ ∨ ∃ f, files p = some f ∧ Grown lease bodies f g) := by
  cases h with
  | creation permission =>
    simp only [Lease.serve_createRequest] at hg
    by_cases hpath : p = path
    · rw [hpath, Function.update_self] at hg; exact .inr ⟨hpath, .inl (Option.some.inj hg).symm⟩
    · rw [Function.update_of_ne hpath] at hg; exact .inl hg
  | closing u offset flag hp hl =>
    subst hp hl
    refine (append_files u offset flag _ (fun f _ hf => ?_) hg).imp_right fun h => ⟨h.1, .inr h.2⟩
    rwa [show (Blob.Content.whole []).bytes = [] from rfl, List.append_nil]
  | part u before flag body hp hl hd =>
    subst hp hl
    refine (append_files u _ flag body (fun f hn hf => ?_) hg).imp_right fun h => ⟨h.1, .inr h.2⟩
    -- the file is as long as the bodies before this one, so these are what is in it
    have hflat : before.flatten ++ body.bytes <+: bodies.flatten := by
      obtain ⟨rest, rfl⟩ := hd
      rw [List.flatten_append, List.flatten_append, List.flatten_singleton]; exact List.prefix_append _ _
    have hlen : before.flatten.length = f.content.length := by exact_mod_cast hn _ rfl
    have hcontent : before.flatten = f.content :=
      (List.prefix_of_prefix_length_le ((List.prefix_append _ _).trans hflat) hf hlen.le).eq_of_length hlen
    rwa [← hcontent]

/-- Where a caller may stand after some bodies: its handle counts all of them. -/
def Holds (path lease : String) (bodies : List Bytes) : Stage → Prop
  | .fresh => False
  | .ready h => ∃ u, h = .upload u ∧ u.remotePath = path ∧ u.lease = lease ∧ u.size = bodies.flatten.length
  | .over => True

theorem silent_calling {α : Type} (task : Call α) (next : Except Fault α → Stage) :
    (calling task next).silent = task.run.silent >>= fun r => .done (next r) := silent_bind _ _

section Conforming

variable {path lease : String} {bodies : List Bytes}

theorem silent_begin (b : Backend) (key : String) :
    (calling (b.beginUpload key) begun).silent =
      .draw fun serial =>
        .ask (createRequest b.account.filePermission (b.path key) (Identifier.numbered serial)) fun answer =>
          .done (begun ((settle false answer).map fun _ =>
            { key, remotePath := b.path key, lease := Identifier.numbered serial })) := by
  rw [silent_calling, Backend.beginUpload, Backend.silent_observed, silent_start]
  rfl

theorem always_begin (permission key path : String) (serial : Nat) :
    Always (Legit path (Identifier.numbered serial) []) (Holds path (Identifier.numbered serial) [])
      (Dialogue.ask (P := Remote.protocol) (createRequest permission path (Identifier.numbered serial))
        fun answer => .done (begun ((settle false answer).map fun _ =>
          { key, remotePath := path, lease := Identifier.numbered serial }))) := by
  refine ⟨.creation _, fun answer => ?_⟩
  beta_reduce
  cases settle false answer with
  | error fault => exact trivial
  | ok response => exact ⟨_, rfl, rfl, rfl, rfl⟩

theorem always_refusal (u : Upload) (f : RemoteFailure) (hp : u.remotePath = path) (hl : u.lease = lease) :
    Always (Legit path lease bodies) (fun _ => True) (u.refusal f).run.silent := by
  rw [silent_refusal]
  by_cases h404 : f.status = 404
  · rw [if_pos h404]; exact trivial
  rw [if_neg h404]
  by_cases h400 : f.status = 400 ∧ f.exception = Remote.badOffset
  · rw [if_pos h400]; exact ⟨.closing u _ _ hp hl, fun _ => trivial⟩
  · rw [if_neg h400]; exact trivial

theorem always_appendLast (u : Upload) (body : Blob.Content) (hp : u.remotePath = path) (hl : u.lease = lease)
    (hs : u.size - body.bytes.length = bodies.flatten.length) :
    Always (Legit path lease (bodies ++ [body.bytes])) (fun _ => True)
      (u.appendLast body body.bytes.length).run.silent := by
  rw [silent_appendLast, hs]
  refine ⟨.part u bodies _ body hp hl (List.prefix_refl _), fun answer => ?_⟩
  beta_reduce
  rcases settle true answer with fault | response
  · rcases fault with e | _
    · cases e with
      | remote f => exact always_refusal u f hp hl
      | final => exact trivial
      | temporary => exact trivial
    all_goals exact trivial
  · exact trivial

theorem silent_add (u : Upload) (body : Blob.Content) :
    (calling (Backend.addPart (.upload u) body body.bytes.length).2 fun _ =>
        .ready (Backend.addPart (.upload u) body body.bytes.length).1).silent =
      ((u.extend body.bytes.length).appendLast body body.bytes.length).run.silent >>= fun _ =>
        .done (.ready (.upload (u.extend body.bytes.length))) := by
  rw [silent_calling]
  exact congrArg (· >>= _) (Backend.silent_observed _ _ _)

theorem size_extend {u : Upload} (body : Blob.Content) (hs : u.size = bodies.flatten.length) :
    (u.extend body.bytes.length).size = (bodies ++ [body.bytes]).flatten.length := by
  rw [extend, hs, List.flatten_append, List.length_append, List.flatten_singleton]; push_cast; rfl

theorem offset_extend {u : Upload} (size : Int) : (u.extend size).size - size = u.size :=
  Int.add_sub_cancel ..

theorem always_add {h : Handle} (body : Blob.Content) (hh : Holds path lease bodies (.ready h)) :
    Always (Legit path lease (bodies ++ [body.bytes])) (Holds path lease (bodies ++ [body.bytes]))
      (calling (Backend.addPart h body body.bytes.length).2 fun _ =>
        .ready (Backend.addPart h body body.bytes.length).1) := by
  obtain ⟨u, rfl, hp, hl, hs⟩ := hh
  rw [← always_silent, silent_add, always_bind]
  exact Always.mono (fun _ hq => hq) (fun _ _ => ⟨_, rfl, hp, hl, size_extend body hs⟩)
    (always_appendLast (u.extend body.bytes.length) body hp hl ((offset_extend _).trans hs))

theorem always_commit {h : Handle} (hh : Holds path lease bodies (.ready h)) :
    Always (Legit path lease bodies) (Holds path lease bodies)
      (calling (Backend.commitUpload h) fun _ => .over) := by
  obtain ⟨u, rfl, hp, hl, -⟩ := hh
  rw [← always_silent, silent_calling, Backend.commitUpload, Backend.silent_observed]
  show Always _ _ (u.commit.run.silent >>= _)
  rw [silent_commit]
  exact ⟨.closing u _ _ hp hl, fun _ => trivial⟩

theorem always_abort {h : Handle} (hh : Holds path lease bodies (.ready h)) :
    Always (Legit path lease bodies) (Holds path lease bodies)
      (calling (Backend.abortUpload h) fun _ => .over) := by
  obtain ⟨u, rfl, hp, hl, -⟩ := hh
  rw [← always_silent, silent_calling, Backend.abortUpload, Backend.silent_observed]
  show Always _ _ (u.abort.run.silent >>= _)
  rw [silent_abort]
  exact ⟨.closing u _ _ hp hl, fun _ => trivial⟩

end Conforming

/-! ### The invariant of one upload -/

/-- An upload to a path keeps to the rules: no call was made yet; or it began, and the call draws a lease
before all else; or it has a lease, and whatever the rest of its call asks is legitimate under it. -/
inductive Session.Conforms (path : String) : Session → Prop
  | fresh : Conforms path {}
  | beginning {task : Dialogue Remote.protocol Stage} {next : Nat → Dialogue Remote.protocol Stage} :
      task.silent = .draw next →
      (∀ n, Always (Legit path (Identifier.numbered n) []) (Holds path (Identifier.numbered n) []) (next n)) →
      Conforms path { task }
  | leased {bodies : List Bytes} {n : Nat} {task : Dialogue Remote.protocol Stage} :
      Always (Legit path (Identifier.numbered n) bodies) (Holds path (Identifier.numbered n) bodies) task →
      Conforms path { bodies, drawn := some n, task }

namespace Session

variable {path : String} {x y : Session} {b : Backend} {key : String}

theorem Conforms.calls (hx : x.Conforms (b.path key)) (h : Calls b key x y) : y.Conforms (b.path key) := by
  cases hx with
  | fresh =>
    cases h with
    | begins _ => exact .beginning (silent_begin b key) fun n => always_begin _ key (b.path key) n
    | adds _ h => exact nomatch h
    | commits h => exact nomatch h
    | aborts h => exact nomatch h
  | beginning hs _ =>
    -- a call in progress is not done, so no other one is made
    cases h with
    | begins h => cases h; exact nomatch hs
    | adds _ h => cases h; exact nomatch hs
    | commits h => cases h; exact nomatch hs
    | aborts h => cases h; exact nomatch hs
  | leased ha =>
    cases h with
    | begins h => cases h; exact False.elim ha
    | adds body h => cases h; exact .leased (always_add body ha)
    | commits h => cases h; exact .leased (always_commit ha)
    | aborts h => cases h; exact .leased (always_abort ha)

theorem Conforms.note {n : Log.Note} {next : Dialogue Remote.protocol Stage} (hx : x.Conforms path)
    (h : x.task = .note n next) : ({ x with task := next } : Session).Conforms path := by
  cases hx with
  | fresh => exact nomatch h
  | beginning hs hn => cases h; exact .beginning hs hn
  | leased ha => cases h; exact .leased ha

theorem Conforms.draw {next : Nat → Dialogue Remote.protocol Stage} (hx : x.Conforms path)
    (h : x.task = .draw next) (n : Nat) :
    ({ x with drawn := x.drawn.or (some n), task := next n } : Session).Conforms path := by
  cases hx with
  | fresh => exact nomatch h
  | beginning hs hn =>
    cases h
    obtain rfl : (fun serial => (next serial).silent) = _ := Dialogue.draw.inj hs
    exact .leased ((always_silent _).mp (hn n))
  | leased ha => cases h; exact .leased (ha n)

/-- Only an upload with a lease asks anything, and what it asks is legitimate. -/
theorem Conforms.ask {q : Request} {next : Except Fault Remote.Response → Dialogue Remote.protocol Stage}
    (hx : x.Conforms path) (h : x.task = .ask q next) :
    (∃ n, x.drawn = some n ∧ Legit path (Identifier.numbered n) x.bodies q) ∧
      ∀ answer, ({ x with task := next answer } : Session).Conforms path := by
  cases hx with
  | fresh => exact nomatch h
  | beginning hs _ => cases h; exact nomatch hs
  | leased ha => cases h; exact ⟨⟨_, rfl, ha.1⟩, fun answer => .leased (ha.2 answer)⟩

end Session

theorem Calls.drawn_eq {b : Backend} {key : String} {x y : Session} (h : Calls b key x y) :
    y.drawn = x.drawn := by
  cases h <;> rfl

theorem Calls.bodies_prefix {b : Backend} {key : String} {x y : Session} (h : Calls b key x y) :
    x.bodies <+: y.bodies := by
  cases h with
  | adds body _ => exact List.prefix_append _ _
  | _ => exact List.prefix_refl _

end Upload

end LakeStore
