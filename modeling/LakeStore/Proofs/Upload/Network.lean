import LakeStore.Proofs.Identifier
import LakeStore.Proofs.Upload.Session

/-!
Any number of uploads over a network that keeps no promises.

A request that was sent stays on the network: it may be applied late, out of order, several times or never,
and so may its reply come late, several times or never; a caller may give up waiting at any moment. The
callers go on in any order, each one with one call at a time. What is in a file is nevertheless a prefix of
all bodies passed on by one of them: the one whose creation was applied last.
-/

namespace LakeStore.Upload

open Dialogue
open Lease (File Files Verdict serve)
open Remote (Request Response SyncFlag)

/-- What an upload goes to: a key of a backend. -/
structure Site where
  backend : Backend
  key : String

/-- The remote path of a site. -/
def Site.path (s : Site) : String := s.backend.path s.key

/-- The files of the remote, the serial numbers that were ever drawn, the uploads, the requests that were ever
sent, and what became of those that were applied. -/
structure Network (ι : Type) where
  files : Files
  used : List Nat
  uploads : ι → Session
  sent : List Request
  replies : List (Request × Verdict)

namespace Network

variable {ι : Type}

/-- Before any upload: no file is under a lease that is still to be drawn. -/
structure Initial (x : Network ι) : Prop where
  uploads : ∀ i, x.uploads i = {}
  sent : x.sent = []
  files : ∀ path f n, x.files path = some f → f.lease = some (Identifier.numbered n) → n ∈ x.used

/-- How waiting for an answer may end: with any reply to the request, or with a fault. -/
inductive Answers (x : Network ι) (q : Request) : Except Fault Response → Prop
  | reply {v : Verdict} {r : Response} : (q, v) ∈ x.replies → v.Tells r → Answers x q (.ok r)
  | loss (fault : Fault) : Answers x q (.error fault)

variable [DecidableEq ι]

/-- One upload goes on. -/
def go (x : Network ι) (i : ι) (y : Session) : Network ι :=
  { x with uploads := Function.update x.uploads i y }

@[simp] theorem go_self (x : Network ι) (i : ι) (y : Session) : (x.go i y).uploads i = y :=
  Function.update_self ..

@[simp] theorem go_of_ne (x : Network ι) {i j : ι} (h : j ≠ i) (y : Session) :
    (x.go i y).uploads j = x.uploads j := Function.update_of_ne h ..

@[simp] theorem go_go (x : Network ι) (i : ι) (y z : Session) : (x.go i y).go i z = x.go i z := by
  rw [go, go, Function.update_idem]; rfl

@[simp] theorem go_uploads (x : Network ι) (i : ι) : x.go i (x.uploads i) = x := by
  rw [go, Function.update_eq_self]

/-- What may happen next: a caller makes a call, or a call in progress goes on by itself, sends its request,
once or again, or is answered; or the remote applies a request. -/
inductive Step (site : ι → Site) : Network ι → Network ι → Prop
  | call {x : Network ι} (i : ι) {y : Session} : Calls (site i).backend (site i).key (x.uploads i) y →
      Step site x (x.go i y)
  | note {x : Network ι} (i : ι) {n : Log.Note} {next : Dialogue Remote.protocol Stage} :
      (x.uploads i).task = .note n next → Step site x (x.go i { x.uploads i with task := next })
  | draw {x : Network ι} (i : ι) {next : Nat → Dialogue Remote.protocol Stage} (n : Nat) :
      (x.uploads i).task = .draw next → n ∉ x.used →
      Step site x
        { x.go i { x.uploads i with drawn := (x.uploads i).drawn.or (some n), task := next n } with
          used := n :: x.used }
  | send {x : Network ι} (i : ι) {q : Request}
      {next : Except Fault Response → Dialogue Remote.protocol Stage} :
      (x.uploads i).task = .ask q next → Step site x { x with sent := q :: x.sent }
  | answer {x : Network ι} (i : ι) {q : Request}
      {next : Except Fault Response → Dialogue Remote.protocol Stage}
      {a : Except Fault Response} : (x.uploads i).task = .ask q next → x.Answers q a →
      Step site x (x.go i { x.uploads i with task := next a })
  | apply {x : Network ι} (q : Request) : q ∈ x.sent →
      Step site x { x with files := (serve q x.files).2, replies := (q, (serve q x.files).1) :: x.replies }

/-- Any number of steps in any order. -/
abbrev Reaches (site : ι → Site) : Network ι → Network ι → Prop := Relation.ReflTransGen (Step site)

/-! ### An upload without losses -/

variable {site : ι → Site} {x₀ x y : Network ι}

section Lossless

/-- Where one upload is: what files there are, what was passed on and drawn, and what is left of the call in
progress, log records aside. -/
structure At (x : Network ι) (i : ι) (files : Files) (bodies : List Bytes) (drawn : Option Nat)
    (rest : Dialogue Remote.protocol Stage) : Prop where
  files : x.files = files
  bodies : (x.uploads i).bodies = bodies
  drawn : (x.uploads i).drawn = drawn
  rest : (x.uploads i).task.silent = rest

variable (site) {i : ι} {files : Files} {bodies : List Bytes} {drawn : Option Nat}

/-- Writing to the log holds no call up. -/
theorem reaches_unnoted : ∀ (d : Dialogue Remote.protocol Stage) {x : Network ι}, (x.uploads i).task = d →
    ∃ task, Reaches site x (x.go i { x.uploads i with task }) ∧ task.silent = d.silent ∧
      ∀ n next, task ≠ .note n next
  | .note n next, x, h => by
    obtain ⟨task, hreach, hsilent, hnote⟩ :=
      reaches_unnoted next (x := x.go i { x.uploads i with task := next }) (by rw [go_self])
    refine ⟨task, .head (.note i h) ?_, hsilent, hnote⟩
    rwa [go_self, go_go] at hreach
  | .done s, x, h => ⟨_, by rw [← h, go_uploads], rfl, nofun⟩
  | .ask q next, x, h => ⟨_, by rw [← h, go_uploads], rfl, nofun⟩
  | .draw next, x, h => ⟨_, by rw [← h, go_uploads], rfl, nofun⟩

theorem At.unnoted {rest : Dialogue Remote.protocol Stage} (h : x.At i files bodies drawn rest) :
    ∃ y, Reaches site x y ∧ y.At i files bodies drawn rest ∧ ∀ n next, (y.uploads i).task ≠ .note n next := by
  obtain ⟨task, hreach, hsilent, hnote⟩ := reaches_unnoted site (i := i) _ (x := x) rfl
  refine ⟨_, hreach, ⟨h.files, ?_, ?_, ?_⟩, ?_⟩ <;> rw [go_self]
  · exact h.bodies
  · exact h.drawn
  · exact hsilent.trans h.rest
  · exact hnote

/-- A caller whose call has nothing left to ask makes the next one. -/
theorem At.calls {stage : Stage} {s : Session} (h : x.At i files bodies drawn (.done stage))
    (hs : Calls (site i).backend (site i).key ⟨bodies, drawn, .done stage⟩ s) :
    ∃ y, Reaches site x y ∧ y.At i files s.bodies s.drawn s.task.silent := by
  obtain ⟨y, hreach, hy, hnote⟩ := h.unnoted site
  have hdone : y.uploads i = ⟨bodies, drawn, .done stage⟩ := by
    obtain ⟨-, hb, hd, hr⟩ := hy
    rcases hu : y.uploads i with ⟨b, d, task⟩
    rw [hu] at hb hd hr hnote
    subst hb hd
    cases task with
    | done t => obtain rfl := Dialogue.done.inj hr; rfl
    | note n next => exact absurd rfl (hnote n next)
    | _ => exact nomatch hr
  refine ⟨y.go i s, hreach.tail (.call i (hdone ▸ hs)), hy.files, ?_, ?_, ?_⟩ <;> rw [go_self]

theorem At.draws {next : Nat → Dialogue Remote.protocol Stage} (h : x.At i files bodies none (.draw next)) :
    ∃ n y, Reaches site x y ∧ y.At i files bodies (some n) (next n) := by
  obtain ⟨y, hreach, hy, hnote⟩ := h.unnoted site
  obtain ⟨n, hn⟩ := Infinite.exists_notMem_finset y.used.toFinset
  rw [List.mem_toFinset] at hn
  have hr := hy.rest
  rcases htask : (y.uploads i).task with t | _ | ⟨m, rest⟩ | next' <;> rw [htask] at hr
  · exact nomatch hr
  · exact nomatch hr
  · exact absurd htask (hnote m rest)
  · refine ⟨n, _, hreach.tail (.draw i n htask hn), hy.files, ?_, ?_, ?_⟩
    · show ((y.go i _).uploads i).bodies = _
      rw [go_self]; exact hy.bodies
    · show ((y.go i _).uploads i).drawn = _
      rw [go_self, hy.drawn]; rfl
    · show ((y.go i _).uploads i).task.silent = _
      rw [go_self]; exact congrFun (Dialogue.draw.inj hr) n

/-- A request is sent, applied and answered. -/
theorem At.exchanges {q : Request} {next : Except Fault Response → Dialogue Remote.protocol Stage}
    (h : x.At i files bodies drawn (.ask q next)) {r : Response} (hr : (serve q files).1.Tells r) :
    ∃ y, Reaches site x y ∧ y.At i (serve q files).2 bodies drawn (next (.ok r)) := by
  obtain ⟨y, hreach, hy, hnote⟩ := h.unnoted site
  have hrest := hy.rest
  rcases htask : (y.uploads i).task with t | ⟨q', next'⟩ | ⟨m, rest⟩ | _ <;> rw [htask] at hrest
  · exact nomatch hrest
  · obtain ⟨rfl, hnext⟩ := Dialogue.ask.inj hrest
    have happly := (hreach.tail (.send i htask)).tail (.apply q' List.mem_cons_self)
    refine ⟨_, happly.tail (.answer i htask (.reply List.mem_cons_self (hy.files ▸ hr))), ?_, ?_, ?_, ?_⟩
    · show (serve q' y.files).2 = _
      rw [hy.files]
    · rw [go_self]; exact hy.bodies
    · rw [go_self]; exact hy.drawn
    · rw [go_self]; exact congrFun (eq_of_heq hnext) (.ok r)
  · exact absurd htask (hnote m rest)
  · exact nomatch hrest

variable {site}

/-- Everything that was passed on by an upload is in its file, which is still open. -/
def Landed (site : ι → Site) (x : Network ι) (i : ι) (bodies : List Bytes) : Prop :=
  ∃ n u files, x.At i files bodies (some n) (.done (.ready (.upload u))) ∧ u.remotePath = (site i).path ∧
    u.lease = Identifier.numbered n ∧ u.size = bodies.flatten.length ∧
    files (site i).path = some ⟨bodies.flatten, some u.lease, some u.lease⟩

/-- A response that says that a request was applied. -/
def accepted : Response := { operation := .append, status := 200 }

theorem reaches_begun (h : x.uploads i = {}) : ∃ y, Reaches site x y ∧ Landed site y i [] := by
  have hat : x.At i x.files [] none (.done .fresh) := ⟨rfl, by rw [h], by rw [h], by rw [h]; rfl⟩
  obtain ⟨y₁, h₁, hat⟩ := hat.calls site (.begins rfl)
  rw [silent_begin] at hat
  obtain ⟨n, y₂, h₂, hat⟩ := hat.draws site
  obtain ⟨y₃, h₃, hat⟩ := hat.exchanges site (r := accepted) (by rw [Lease.serve_createRequest]; rfl)
  rw [Lease.serve_createRequest] at hat
  exact ⟨y₃, (h₁.trans h₂).trans h₃, n, _, _, hat, rfl, rfl, rfl, Function.update_self ..⟩

theorem Landed.add (h : Landed site x i bodies) (body : Blob.Content) :
    ∃ y, Reaches site x y ∧ Landed site y i (bodies ++ [body.bytes]) := by
  obtain ⟨n, u, files, hat, hp, hl, hs, hf⟩ := h
  obtain ⟨y₁, h₁, hat⟩ := hat.calls site (.adds body rfl)
  rw [silent_add, silent_appendLast, offset_extend, hs] at hat
  have hserve := Lease.serve_applied (u.extend body.bytes.length) (some bodies.flatten.length) .data body
    (hp ▸ hf : files u.remotePath = some _) rfl fun n hn => (Option.some.inj hn).symm
  obtain ⟨y₂, h₂, hat⟩ := hat.exchanges site (r := accepted) (by rw [hserve]; rfl)
  rw [hserve] at hat
  refine ⟨y₂, h₁.trans h₂, n, _, _, hat, hp, hl, ?_, ?_⟩
  · exact size_extend body hs
  · rw [← hp]; refine (Function.update_self ..).trans ?_
    rw [List.flatten_append, List.flatten_singleton]; rfl

/-- Every upload can get through: from any network a call can begin, and all its parts land. So nothing less
than all bodies bounds what is in a file. -/
theorem reaches_landed (site : ι → Site) (h : x.uploads i = {}) (parts : List Blob.Content) :
    ∃ y, Reaches site x y ∧ Landed site y i (parts.map Blob.Content.bytes) := by
  induction parts using List.reverseRecOn with
  | nil => exact reaches_begun h
  | append_singleton parts body ih =>
    obtain ⟨y, hy, hland⟩ := ih
    obtain ⟨z, hz, hland⟩ := hland.add body
    rw [List.map_append]
    exact ⟨z, hy.trans hz, hland⟩

end Lossless

/-! ### The invariant -/

/-- A file is what one upload made of it: its creation was applied last, nobody else holds a lease on it,
and what is in it are the first bodies of that upload. -/
def MadeBy (x : Network ι) (site : ι → Site) (path : String) (f : File) (i : ι) : Prop :=
  (site i).path = path ∧ ∃ l, (x.uploads i).lease = some l ∧ f.origin = some l ∧
    (∀ m, f.lease = some m → m = l) ∧ f.content <+: (x.uploads i).bodies.flatten

/-- What holds of every network that is reached from `x₀`. -/
structure Good (site : ι → Site) (x₀ x : Network ι) : Prop where
  conforms : ∀ i, (x.uploads i).Conforms (site i).path
  fresh : ∀ i n, (x.uploads i).drawn = some n → n ∈ x.used ∧ n ∉ x₀.used
  used : ∀ n ∈ x₀.used, n ∈ x.used
  apart : ∀ i j n, (x.uploads i).drawn = some n → (x.uploads j).drawn = some n → i = j
  sent : ∀ q ∈ x.sent, ∃ i n, (x.uploads i).drawn = some n ∧
    Legit (site i).path (Identifier.numbered n) (x.uploads i).bodies q
  files : ∀ path f, x.files path = some f → x₀.files path = some f ∨ ∃ i, x.MadeBy site path f i

omit [DecidableEq ι] in
theorem Initial.good (h : x₀.Initial) : Good site x₀ x₀ where
  conforms i := by rw [h.uploads i]; exact .fresh
  fresh i n hn := by rw [h.uploads i] at hn; exact nomatch hn
  used n hn := hn
  apart i j n hi := by rw [h.uploads i] at hi; exact nomatch hi
  sent q hq := by rw [h.sent] at hq; exact nomatch hq
  files path f hf := .inl hf

/-- Uploads only ever go on: what was drawn stays drawn, and bodies are added behind the ones before. -/
def Later (x y : Session) : Prop := (∀ n, x.drawn = some n → y.drawn = some n) ∧ x.bodies <+: y.bodies

theorem later_go {i : ι} {s : Session} (h : Later (x.uploads i) s) (j : ι) :
    Later (x.uploads j) ((x.go i s).uploads j) := by
  rcases eq_or_ne j i with rfl | hj
  · rw [go_self]; exact h
  · rw [go_of_ne x hj]; exact ⟨fun _ hn => hn, List.prefix_refl _⟩

omit [DecidableEq ι] in
theorem MadeBy.mono {path : String} {f : File} {i : ι} (h : Later (x.uploads i) (y.uploads i))
    (hf : x.MadeBy site path f i) : y.MadeBy site path f i := by
  obtain ⟨hp, l, hl, ho, hheld, ⟨rest, hrest⟩⟩ := hf
  obtain ⟨n, hn, rfl⟩ := Option.map_eq_some_iff.mp hl
  obtain ⟨more, hmore⟩ := h.2
  refine ⟨hp, _, by rw [Session.lease, h.1 n hn]; rfl, ho, hheld, rest ++ more.flatten, ?_⟩
  rw [← List.append_assoc, hrest, ← List.flatten_append, hmore]

/-- One upload goes on by its own rules. A number that it draws is one that nobody drew. -/
theorem Good.go (g : Good site x₀ x) {i : ι} {s : Session} {used : List Nat} (hc : s.Conforms (site i).path)
    (hl : Later (x.uploads i) s) (hu : ∀ n ∈ x.used, n ∈ used)
    (hd : ∀ n, s.drawn = some n → (x.uploads i).drawn = some n ∨ n ∈ used ∧ n ∉ x.used) :
    Good site x₀ { x.go i s with used } where
  conforms j := by
    show ((x.go i s).uploads j).Conforms _
    rcases eq_or_ne j i with rfl | hj
    · rw [go_self]; exact hc
    · rw [go_of_ne x hj]; exact g.conforms j
  fresh j n hn := by
    change ((x.go i s).uploads j).drawn = some n at hn
    rcases eq_or_ne j i with rfl | hj
    · rw [go_self] at hn
      rcases hd n hn with hold | ⟨hnew, hno⟩
      · exact ⟨hu n (g.fresh j n hold).1, (g.fresh j n hold).2⟩
      · exact ⟨hnew, fun h => hno (g.used n h)⟩
    · rw [go_of_ne x hj] at hn
      exact ⟨hu n (g.fresh j n hn).1, (g.fresh j n hn).2⟩
  used n hn := hu n (g.used n hn)
  apart j k n hj hk := by
    change ((x.go i s).uploads j).drawn = some n at hj
    change ((x.go i s).uploads k).drawn = some n at hk
    by_cases hji : j = i <;> by_cases hki : k = i
    · rw [hji, hki]
    · rw [hji, go_self] at hj; rw [go_of_ne x hki] at hk
      rcases hd n hj with hold | ⟨-, hno⟩
      · rw [hji]; exact g.apart i k n hold hk
      · exact absurd (g.fresh k n hk).1 hno
    · rw [go_of_ne x hji] at hj; rw [hki, go_self] at hk
      rcases hd n hk with hold | ⟨-, hno⟩
      · rw [hki]; exact g.apart j i n hj hold
      · exact absurd (g.fresh j n hj).1 hno
    · rw [go_of_ne x hji] at hj; rw [go_of_ne x hki] at hk
      exact g.apart j k n hj hk
  sent q hq := by
    obtain ⟨j, n, hn, hlegit⟩ := g.sent q hq
    exact ⟨j, n, (later_go hl j).1 n hn, hlegit.mono (later_go hl j).2⟩
  files path f hf := (g.files path f hf).imp_right fun ⟨j, hj⟩ => ⟨j, hj.mono (later_go hl j)⟩

omit [DecidableEq ι] in
/-- A request that was sent is applied. -/
theorem Good.apply (h₀ : x₀.Initial) (g : Good site x₀ x) {q : Request} (hq : q ∈ x.sent)
    (replies : List (Request × Verdict)) :
    Good site x₀ { x with files := (serve q x.files).2, replies } where
  conforms := g.conforms
  fresh := g.fresh
  used := g.used
  apart := g.apart
  sent := g.sent
  files path f hf := by
    obtain ⟨i, n, hn, hlegit⟩ := g.sent q hq
    have hlease : (x.uploads i).lease = some (Identifier.numbered n) := by rw [Session.lease, hn]; rfl
    rcases hlegit.files hf with hold | ⟨hpath, rfl | ⟨f₀, hf₀, hgrown⟩⟩
    · exact g.files path f hold
    · exact .inr ⟨i, hpath.symm, _, hlease, rfl, fun m hm => (Option.some.inj hm).symm, List.nil_prefix⟩
    · rcases g.files path f₀ hf₀ with hinitial | ⟨j, hj⟩
      · exact absurd (h₀.files path f₀ n hinitial hgrown.held) (g.fresh i n hn).2
      · -- the file is under the lease of the request, so both come from the same upload
        obtain ⟨hp, l, hl, ho, hheld, hcontent⟩ := hj
        obtain rfl := hheld _ hgrown.held
        obtain ⟨m, hm, hmn⟩ := Option.map_eq_some_iff.mp hl
        obtain rfl := Identifier.numbered_injective hmn
        obtain rfl := g.apart i j m hn hm
        refine .inr ⟨i, hp, _, hl, hgrown.origin.trans ho, fun k hk => ?_, hgrown.content hcontent⟩
        rcases hgrown.lease with hnone | hsame
        · rw [hnone] at hk; exact nomatch hk
        · exact hheld k (hsame ▸ hk)

theorem Good.step (h₀ : x₀.Initial) (g : Good site x₀ x) (h : Step site x y) : Good site x₀ y := by
  cases h with
  | call i h =>
    exact g.go ((g.conforms i).calls h) ⟨fun n hn => h.drawn_eq.trans hn, h.bodies_prefix⟩ (fun _ hn => hn)
      fun n hn => .inl (h.drawn_eq.symm.trans hn)
  | note i h =>
    exact g.go ((g.conforms i).note h) ⟨fun _ hn => hn, List.prefix_refl _⟩ (fun _ hn => hn) fun _ hn =>
      .inl hn
  | draw i n h hn =>
    refine g.go ((g.conforms i).draw h n) ⟨fun m hm => ?_, List.prefix_refl _⟩
      (fun m hm => List.mem_cons_of_mem n hm) fun m hm => ?_
    · show (x.uploads i).drawn.or (some n) = some m
      rw [hm]; rfl
    · change (x.uploads i).drawn.or (some n) = some m at hm
      rcases hd : (x.uploads i).drawn with _ | k
      · rw [hd] at hm; obtain rfl := Option.some.inj hm
        exact .inr ⟨List.mem_cons_self, hn⟩
      · rw [hd] at hm; exact .inl hm
  | send i h =>
    refine { g with sent := fun q hq => ?_ }
    rcases List.mem_cons.mp hq with rfl | hq
    · obtain ⟨⟨n, hn, hlegit⟩, -⟩ := (g.conforms i).ask h
      exact ⟨i, n, hn, hlegit⟩
    · exact g.sent q hq
  | answer i h _ =>
    exact g.go (((g.conforms i).ask h).2 _) ⟨fun _ hn => hn, List.prefix_refl _⟩ (fun _ hn => hn)
      fun _ hn => .inl hn
  | apply q hq => exact g.apply h₀ hq _

theorem Good.reaches (h₀ : x₀.Initial) (h : Reaches site x₀ x) : Good site x₀ x := by
  induction h with
  | refl => exact h₀.good
  | tail _ h ih => exact ih.step h₀ h

/-- At every moment a file is as it was before all uploads, or the upload whose creation was applied last is
one of those to its path and no other one's, and what is in the file is a prefix of all bodies passed on by
that upload, in the order of the calls. -/
theorem content_prefix (h₀ : x₀.Initial) (h : Reaches site x₀ x) {path : String} {f : File}
    (hf : x.files path = some f) :
    x₀.files path = some f ∨
      ∃ i l, (site i).path = path ∧ f.origin = some l ∧ (x.uploads i).lease = some l ∧
        (∀ j, (x.uploads j).lease = some l → j = i) ∧ f.content <+: (x.uploads i).bodies.flatten := by
  have g := Good.reaches h₀ h
  rcases g.files path f hf with hold | ⟨i, hp, l, hl, ho, -, hc⟩
  · exact .inl hold
  refine .inr ⟨i, l, hp, ho, hl, fun j hj => ?_, hc⟩
  obtain ⟨m, hm, rfl⟩ := Option.map_eq_some_iff.mp hj
  obtain ⟨n, hn, hnm⟩ := Option.map_eq_some_iff.mp hl
  exact g.apart j i m hm (Identifier.numbered_injective hnm ▸ hn)

/-- So it is for one upload of two parts that both land. -/
theorem content_prefix_two_parts :
    ∃ (x : Network Unit) (f : File),
      Reaches (fun _ => ⟨⟨{ endpoint := "a.b" }, 0⟩, "k"⟩) ⟨fun _ => none, [], fun _ => {}, [], []⟩ x ∧
        x.files "k" = some f ∧ f.content = [1, 2, 3] ∧
        ∃ i l, f.origin = some l ∧ (x.uploads i).lease = some l ∧
        f.content <+: (x.uploads i).bodies.flatten := by
  have hinitial : Initial (⟨fun _ => none, [], fun _ => {}, [], []⟩ : Network Unit) :=
    ⟨fun _ => rfl, rfl, fun _ _ _ h => nomatch h⟩
  obtain ⟨x, hx, n, u, files, hat, -, -, -, hf⟩ :=
    reaches_landed (fun _ : Unit => ⟨⟨{ endpoint := "a.b" }, 0⟩, "k"⟩) (hinitial.uploads ())
      [.whole [1, 2], .chunked [[3]]]
  have hfile : x.files "k" = some ⟨[1, 2, 3], some u.lease, some u.lease⟩ := by rw [hat.files]; exact hf
  rcases content_prefix hinitial hx hfile with hold | ⟨i, l, -, ho, hl, -, hc⟩
  · exact nomatch hold
  · exact ⟨x, _, hx, hfile, rfl, i, l, ho, hl, hc⟩

end Network

end LakeStore.Upload
