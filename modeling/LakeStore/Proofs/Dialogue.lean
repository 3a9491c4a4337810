import Mathlib.Tactic.Common
import LakeStore.Dialogue

/-!
Laws of dialogues.

A dialogue is a monad, and its log records are no part of what it says to its counterpart: `silent`
leaves them out and keeps everything else. Three judgements are made of a dialogue. `Always` says what it
may ask and how it may end, whatever it is answered; it speaks of dialogues that are interrupted at any
question. `Runs` is a whole conversation with a counterpart that answers from a state and may have a
choice of answers. `Asks` is said of a dialogue that has no choice left: what it asks and how it ends are
the same whichever of the allowed answers it gets.
-/

namespace LakeStore.Dialogue

variable {P Q : Protocol} {α β σ : Type}

@[simp] theorem pure_eq_done (a : α) : (pure a : Dialogue P α) = .done a := rfl

@[simp] theorem done_bind (a : α) (f : α → Dialogue P β) : Dialogue.done a >>= f = f a := rfl

@[simp] theorem ask_bind (q : P.Question) (next : P.Answer q → Dialogue P α) (f : α → Dialogue P β) :
    Dialogue.ask q next >>= f = .ask q fun answer => next answer >>= f := rfl

@[simp] theorem note_bind (n : Log.Note) (next : Dialogue P α) (f : α → Dialogue P β) :
    Dialogue.note n next >>= f = .note n (next >>= f) := rfl

@[simp] theorem draw_bind (next : Nat → Dialogue P α) (f : α → Dialogue P β) :
    Dialogue.draw next >>= f = .draw fun serial => next serial >>= f := rfl

theorem bind_done (d : Dialogue P α) : d >>= Dialogue.done = d := by
  induction d with
  | done a => rfl
  | ask q next ih => rw [ask_bind]; exact congrArg _ (funext ih)
  | note n next ih => rw [note_bind, ih]
  | draw next ih => rw [draw_bind]; exact congrArg _ (funext ih)

theorem bind_assoc_eq {γ : Type} (d : Dialogue P α) (f : α → Dialogue P β) (g : β → Dialogue P γ) :
    d >>= f >>= g = d >>= fun a => f a >>= g := by
  induction d with
  | done a => rfl
  | ask q next ih => exact congrArg (Dialogue.ask q) (funext ih)
  | note n next ih => exact congrArg (Dialogue.note n) ih
  | draw next ih => exact congrArg Dialogue.draw (funext ih)

instance : LawfulMonad (Dialogue P) :=
  LawfulMonad.mk' (Dialogue P) bind_done (fun _ _ => rfl) bind_assoc_eq

/-! ### Without the log -/

/-- The same dialogue without its log records. -/
def silent : Dialogue P α → Dialogue P α
  | .done a => .done a
  | .ask q next => .ask q fun answer => silent (next answer)
  | .note _ next => silent next
  | .draw next => .draw fun serial => silent (next serial)

@[simp] theorem silent_done (a : α) : silent (.done a : Dialogue P α) = .done a := rfl

@[simp] theorem silent_ask (q : P.Question) (next : P.Answer q → Dialogue P α) :
    silent (.ask q next) = .ask q fun answer => silent (next answer) := rfl

@[simp] theorem silent_note (n : Log.Note) (next : Dialogue P α) : silent (.note n next) = silent next := rfl

@[simp] theorem silent_draw (next : Nat → Dialogue P α) :
    silent (.draw next) = .draw fun serial => silent (next serial) := rfl

@[simp] theorem silent_bind (d : Dialogue P α) (f : α → Dialogue P β) :
    silent (d >>= f) = silent d >>= fun a => silent (f a) := by
  induction d with
  | done a => rfl
  | ask q next ih => exact congrArg (Dialogue.ask q) (funext ih)
  | note n next ih => exact ih
  | draw next ih => exact congrArg Dialogue.draw (funext ih)

/-! ### Computations that may fail -/

section Failing

variable {ε : Type}

/-- What follows a computation that may have failed: a failure is passed on. -/
def after (f : α → Dialogue P (Except ε β)) : Except ε α → Dialogue P (Except ε β)
  | .ok a => f a
  | .error e => .done (.error e)

@[simp] theorem after_ok (f : α → Dialogue P (Except ε β)) (a : α) : after f (.ok a) = f a := rfl

theorem silent_run_bind (x : ExceptT ε (Dialogue P) α) (f : α → ExceptT ε (Dialogue P) β) :
    (x >>= f).run.silent = x.run.silent >>= after fun a => (f a).run.silent := by
  rw [ExceptT.run_bind, silent_bind]
  congr 1
  funext r
  cases r <;> rfl

@[simp] theorem silent_run_lift (d : Dialogue P α) :
    (ExceptT.lift d : ExceptT ε (Dialogue P) α).run.silent = d.silent >>= fun a => .done (.ok a) :=
  silent_bind d fun a => .done (Except.ok a)

@[simp] theorem silent_run_liftM (d : Dialogue P α) :
    (liftM d : ExceptT ε (Dialogue P) α).run.silent = d.silent >>= fun a => .done (.ok a) :=
  silent_run_lift d

theorem run_map_eq_bind (g : α → β) (x : ExceptT ε (Dialogue P) α) :
    (g <$> x).run = x.run >>= fun r => .done (r.map g) := by
  rw [ExceptT.run_map, map_eq_pure_bind]; rfl

end Failing

/-! ### What a dialogue may ask -/

/-- Whatever a dialogue is answered, and whatever numbers it draws, it asks only questions with `p` and
ends only in values with `post`. -/
def Always (p : P.Question → Prop) (post : α → Prop) : Dialogue P α → Prop
  | .done a => post a
  | .ask q next => p q ∧ ∀ answer, Always p post (next answer)
  | .note _ next => Always p post next
  | .draw next => ∀ serial, Always p post (next serial)

theorem always_silent {p : P.Question → Prop} {post : α → Prop} (d : Dialogue P α) :
    Always p post (silent d) ↔ Always p post d := by
  induction d with
  | done a => rfl
  | ask q next ih => exact and_congr_right fun _ => forall_congr' ih
  | note n next ih => exact ih
  | draw next ih => exact forall_congr' ih

theorem always_bind {p : P.Question → Prop} {post : β → Prop} (d : Dialogue P α) (f : α → Dialogue P β) :
    Always p post (d >>= f) ↔ Always p (fun a => Always p post (f a)) d := by
  induction d with
  | done a => rfl
  | ask q next ih => exact and_congr_right fun _ => forall_congr' ih
  | note n next ih => exact ih
  | draw next ih => exact forall_congr' ih

theorem Always.mono {p p' : P.Question → Prop} {post post' : α → Prop} (hp : ∀ q, p q → p' q)
    (hpost : ∀ a, post a → post' a) : ∀ {d : Dialogue P α}, Always p post d → Always p' post' d
  | .done a, h => hpost a h
  | .ask _ _, ⟨hq, h⟩ => ⟨hp _ hq, fun answer => (h answer).mono hp hpost⟩
  | .note _ next, h => mono hp hpost (d := next) h
  | .draw next, h => fun serial => mono hp hpost (d := next serial) (h serial)

/-! ### Whole conversations -/

/-- A conversation with a counterpart that answers the question `q` in state `s` with an answer and a new
state for which `serves q s` holds: it takes the counterpart from one state to another, and the dialogue
to a value. -/
inductive Runs (serves : (q : P.Question) → σ → P.Answer q → σ → Prop) :
    Dialogue P α → σ → α → σ → Prop
  | done (a : α) (s : σ) : Runs serves (.done a) s a s
  | ask {q : P.Question} {next : P.Answer q → Dialogue P α} {s s' t : σ} {answer : P.Answer q} {a : α} :
      serves q s answer s' → Runs serves (next answer) s' a t → Runs serves (.ask q next) s a t
  | note {n : Log.Note} {next : Dialogue P α} {s t : σ} {a : α} :
      Runs serves next s a t → Runs serves (.note n next) s a t
  | draw {next : Nat → Dialogue P α} {s t : σ} {a : α} (serial : Nat) :
      Runs serves (next serial) s a t → Runs serves (.draw next) s a t

variable {serves : (q : P.Question) → σ → P.Answer q → σ → Prop} {s t : σ} {a : α}

@[simp] theorem runs_done_iff {b : α} : Runs serves (.done b) s a t ↔ a = b ∧ t = s :=
  ⟨fun h => by cases h; exact ⟨rfl, rfl⟩, by rintro ⟨rfl, rfl⟩; exact .done a t⟩

@[simp] theorem runs_ask_iff {q : P.Question} {next : P.Answer q → Dialogue P α} :
    Runs serves (.ask q next) s a t ↔ ∃ answer s', serves q s answer s' ∧ Runs serves (next answer) s' a t :=
  ⟨fun h => by cases h with | ask hq h => exact ⟨_, _, hq, h⟩, by rintro ⟨_, _, hq, h⟩; exact .ask hq h⟩

@[simp] theorem runs_note_iff {n : Log.Note} {next : Dialogue P α} :
    Runs serves (.note n next) s a t ↔ Runs serves next s a t :=
  ⟨fun h => by cases h with | note h => exact h, .note⟩

@[simp] theorem runs_draw_iff {next : Nat → Dialogue P α} :
    Runs serves (.draw next) s a t ↔ ∃ serial, Runs serves (next serial) s a t :=
  ⟨fun h => by cases h with | draw n h => exact ⟨n, h⟩, by rintro ⟨n, h⟩; exact .draw n h⟩

theorem runs_silent {d : Dialogue P α} : Runs serves (silent d) s a t ↔ Runs serves d s a t := by
  induction d generalizing s with
  | done b => rfl
  | ask q next ih => simp only [silent_ask, runs_ask_iff, ih]
  | note n next ih => simp only [silent_note, runs_note_iff, ih]
  | draw next ih => simp only [silent_draw, runs_draw_iff, ih]

/-- A dialogue that says one thing, log records aside, is answered once. -/
theorem runs_of_silent_eq {d : Dialogue P α} {q : P.Question} {f : P.Answer q → α}
    (hd : d.silent = .ask q fun answer => .done (f answer)) :
    Runs serves d s a t ↔ ∃ answer, serves q s answer t ∧ a = f answer := by
  rw [← runs_silent, hd, runs_ask_iff]
  constructor
  · rintro ⟨answer, s', hserves, hrest⟩
    obtain ⟨ha, rfl⟩ := runs_done_iff.mp hrest
    exact ⟨answer, hserves, ha⟩
  · rintro ⟨answer, hserves, rfl⟩
    exact ⟨answer, t, hserves, .done _ _⟩

theorem runs_bind {d : Dialogue P α} {f : α → Dialogue P β} {b : β} :
    Runs serves (d >>= f) s b t ↔ ∃ a s', Runs serves d s a s' ∧ Runs serves (f a) s' b t := by
  induction d generalizing s with
  | done c => simp
  | ask q next ih =>
    simp only [ask_bind, runs_ask_iff, ih]
    constructor
    · rintro ⟨answer, s', hq, a, s'', h, hf⟩; exact ⟨a, s'', ⟨answer, s', hq, h⟩, hf⟩
    · rintro ⟨a, s'', ⟨answer, s', hq, h⟩, hf⟩; exact ⟨answer, s', hq, a, s'', h, hf⟩
  | note n next ih => simp only [note_bind, runs_note_iff, ih]
  | draw next ih =>
    simp only [draw_bind, runs_draw_iff, ih]
    constructor
    · rintro ⟨n, a, s', h, hf⟩; exact ⟨a, s', ⟨n, h⟩, hf⟩
    · rintro ⟨a, s', ⟨n, h⟩, hf⟩; exact ⟨n, a, s', h, hf⟩

/-- A computation that may fail goes on after a value, and ends with a failure. -/
theorem runs_run_bind {ε : Type} {x : ExceptT ε (Dialogue P) α} {f : α → ExceptT ε (Dialogue P) β}
    {r : Except ε β} :
    Runs serves (x >>= f).run s r t ↔
      (∃ a s', Runs serves x.run s (.ok a) s' ∧ Runs serves (f a).run s' r t) ∨
        ∃ e, Runs serves x.run s (.error e) t ∧ r = .error e := by
  rw [← runs_silent, silent_run_bind, runs_bind]
  constructor
  · rintro ⟨a | a, s', hx, hf⟩
    · obtain ⟨rfl, rfl⟩ := runs_done_iff.mp hf
      exact .inr ⟨a, runs_silent.mp hx, rfl⟩
    · exact .inl ⟨a, s', runs_silent.mp hx, runs_silent.mp hf⟩
  · rintro (⟨a, s', hx, hf⟩ | ⟨e, hx, rfl⟩)
    · exact ⟨.ok a, s', runs_silent.mpr hx, runs_silent.mpr hf⟩
    · exact ⟨.error e, t, runs_silent.mpr hx, .done _ _⟩

/-- What is made of the value of a computation that may fail is no part of the conversation. -/
theorem runs_run_map {ε : Type} {x : ExceptT ε (Dialogue P) α} {g : α → β} {r : Except ε β} :
    Runs serves (g <$> x).run s r t ↔ ∃ r', Runs serves x.run s r' t ∧ r = r'.map g := by
  rw [run_map_eq_bind, runs_bind]
  constructor
  · rintro ⟨r', s', hx, hdone⟩
    obtain ⟨hr, rfl⟩ := runs_done_iff.mp hdone
    exact ⟨r', hx, hr⟩
  · rintro ⟨r', hx, rfl⟩
    exact ⟨r', t, hx, .done _ _⟩

/-- A counterpart that answers from another state, of which the one is a part or a rendering. -/
theorem Runs.rendered {τ : Type} {serves' : (q : P.Question) → τ → P.Answer q → τ → Prop} (f : σ → τ)
    (h : ∀ q s answer t, serves q s answer t → serves' q (f s) answer (f t)) {d : Dialogue P α}
    (hd : Runs serves d s a t) : Runs serves' d (f s) a (f t) := by
  induction hd with
  | done a s => exact .done a (f s)
  | ask hq _ ih => exact .ask (h _ _ _ _ hq) ih
  | note _ ih => exact .note ih
  | draw serial _ ih => exact .draw serial ih

theorem Runs.mono {serves' : (q : P.Question) → σ → P.Answer q → σ → Prop}
    (h : ∀ q s answer t, serves q s answer t → serves' q s answer t) {d : Dialogue P α}
    (hd : Runs serves d s a t) : Runs serves' d s a t := hd.rendered id h

/-- A counterpart that answers by what is on top of a list leaves the end of the list. -/
theorem runs_list_iff {X : Type} {serves : (q : P.Question) → List X → P.Answer q → List X → Prop}
    {fits : (q : P.Question) → X → P.Answer q → Prop}
    (h : ∀ q s answer t, serves q s answer t ↔ ∃ x, s = x :: t ∧ fits q x answer) {d : Dialogue P α} {a : α}
    {s t : List X} : Runs serves d s a t ↔ ∃ xs, s = xs ++ t ∧ Runs serves d xs a [] := by
  induction d generalizing s with
  | done b =>
    simp only [runs_done_iff]
    constructor
    · rintro ⟨rfl, rfl⟩; exact ⟨[], rfl, rfl, rfl⟩
    · rintro ⟨xs, rfl, rfl, hxs⟩; rw [← hxs]; exact ⟨rfl, rfl⟩
  | ask q next ih =>
    simp only [runs_ask_iff]
    constructor
    · rintro ⟨answer, s', hserves, hnext⟩
      obtain ⟨x, rfl, hfits⟩ := (h _ _ _ _).mp hserves
      obtain ⟨ys, rfl, hys⟩ := (ih _).mp hnext
      exact ⟨x :: ys, rfl, answer, ys, (h _ _ _ _).mpr ⟨x, rfl, hfits⟩, hys⟩
    · rintro ⟨xs, rfl, answer, s', hserves, hnext⟩
      obtain ⟨x, rfl, hfits⟩ := (h _ _ _ _).mp hserves
      exact ⟨answer, s' ++ t, (h _ _ _ _).mpr ⟨x, rfl, hfits⟩, (ih _).mpr ⟨s', rfl, hnext⟩⟩
  | note n next ih => simp only [runs_note_iff, ih]
  | draw next ih =>
    simp only [runs_draw_iff, ih]
    constructor
    · rintro ⟨n, xs, rfl, h⟩; exact ⟨xs, rfl, n, h⟩
    · rintro ⟨xs, rfl, n, h⟩; exact ⟨n, xs, rfl, h⟩

/-- A dialogue that was carried over into another protocol runs as it would with a counterpart that holds
one conversation for each question. -/
theorem runs_via {serves : (q : Q.Question) → σ → Q.Answer q → σ → Prop}
    {answer : (q : P.Question) → Dialogue Q (P.Answer q)} {d : Dialogue P α} :
    Runs serves (via answer d) s a t ↔ Runs (fun q s b s' => Runs serves (answer q) s b s') d s a t := by
  induction d generalizing s with
  | done b => simp only [via, runs_done_iff]
  | ask q next ih =>
    show Runs serves (answer q >>= fun b => via answer (next b)) s a t ↔ _
    simp only [runs_bind, runs_ask_iff, ih]
  | note n next ih => simp only [via, runs_note_iff, ih]
  | draw next ih => simp only [via, runs_draw_iff, ih]

/-- A counterpart that also keeps the questions it was asked, in order. -/
def recorded (serves : (q : P.Question) → σ → P.Answer q → σ → Prop) (q : P.Question)
    (s : σ × List P.Question) (answer : P.Answer q) (t : σ × List P.Question) : Prop :=
  serves q s.1 answer t.1 ∧ t.2 = s.2 ++ [q]

theorem Runs.unrecorded {d : Dialogue P α} {s t : σ × List P.Question} (h : Runs (recorded serves) d s a t) :
    Runs serves d s.1 a t.1 := h.rendered Prod.fst fun _ _ _ _ hq => hq.1

/-! ### Settled conversations -/

/-- Whatever a dialogue is answered of what is allowed, it asks exactly these questions, in this order, and
ends with this value. -/
def Asks (allowed : (q : P.Question) → P.Answer q → Prop) : Dialogue P α → List P.Question → α → Prop
  | .done a, asked, b => asked = [] ∧ a = b
  | .ask q next, asked, b => ∃ rest, asked = q :: rest ∧ ∀ answer, allowed q answer →
      Asks allowed (next answer) rest b
  | .note _ next, asked, b => Asks allowed next asked b
  | .draw next, asked, b => ∀ serial, Asks allowed (next serial) asked b

section Settled

variable {allowed : (q : P.Question) → P.Answer q → Prop} {d : Dialogue P α}
  {asked more : List P.Question} {a : α} {b : β}

theorem asks_silent : Asks allowed (silent d) asked a ↔ Asks allowed d asked a := by
  induction d generalizing asked with
  | done b => rfl
  | ask q next ih =>
    exact exists_congr fun rest => and_congr_right fun _ => forall₂_congr fun answer _ => ih answer
  | note n next ih => exact ih
  | draw next ih => exact forall_congr' fun serial => ih serial

theorem Asks.bind {f : α → Dialogue P β} (hd : Asks allowed d asked a) (hf : Asks allowed (f a) more b) :
    Asks allowed (d >>= f) (asked ++ more) b := by
  induction d generalizing asked with
  | done c =>
    obtain ⟨rfl, rfl⟩ := hd
    exact hf
  | ask q next ih =>
    obtain ⟨rest, rfl, hnext⟩ := hd
    exact ⟨rest ++ more, rfl, fun answer hallowed => ih answer (hnext answer hallowed)⟩
  | note n next ih => exact ih hd
  | draw next ih => exact fun serial => ih serial (hd serial)

theorem Asks.run_bind {ε : Type} {x : ExceptT ε (Dialogue P) α} {f : α → ExceptT ε (Dialogue P) β} {v : α}
    {r : Except ε β} (hx : Asks allowed x.run asked (.ok v)) (hf : Asks allowed (f v).run more r) :
    Asks allowed (x >>= f).run (asked ++ more) r := by
  rw [ExceptT.run_bind]
  exact hx.bind hf

/-- A dialogue that says one thing, log records aside, is settled by what the answers to that tell it. -/
theorem asks_of_silent_eq {q : P.Question} {f : P.Answer q → α}
    (hd : d.silent = .ask q fun answer => .done (f answer)) (hf : ∀ answer, allowed q answer → f answer = a) :
    Asks allowed d [q] a := by
  rw [← asks_silent, hd]
  exact ⟨[], rfl, fun answer hallowed => ⟨rfl, hf answer hallowed⟩⟩

/-- Only what is allowed for the questions that are asked matters. -/
theorem Asks.mono {allowed' : (q : P.Question) → P.Answer q → Prop} (hd : Asks allowed d asked a)
    (h : ∀ q ∈ asked, ∀ answer, allowed' q answer → allowed q answer) : Asks allowed' d asked a := by
  induction d generalizing asked with
  | done c => exact hd
  | ask q next ih =>
    obtain ⟨rest, rfl, hnext⟩ := hd
    obtain ⟨hq, hrest⟩ := List.forall_mem_cons.mp h
    exact ⟨rest, rfl, fun answer hallowed => ih answer (hnext answer (hq answer hallowed)) hrest⟩
  | note n next ih => exact ih hd h
  | draw next ih => exact fun serial => ih serial (hd serial) h

/-- A dialogue that is carried over asks what the dialogues that answer its questions ask. -/
theorem Asks.via {allowed' : (q : Q.Question) → Q.Answer q → Prop}
    {answer : (q : P.Question) → Dialogue Q (P.Answer q)} {query : P.Question → Q.Question}
    (hd : Asks allowed d asked a) (h : ∀ q ∈ asked, ∃ v, allowed q v ∧ Asks allowed' (answer q) [query q] v) :
    Asks allowed' (Dialogue.via answer d) (asked.map query) a := by
  induction d generalizing asked with
  | done c =>
    obtain ⟨rfl, rfl⟩ := hd
    exact ⟨rfl, rfl⟩
  | ask q next ih =>
    obtain ⟨rest, rfl, hnext⟩ := hd
    obtain ⟨⟨v, hv, hasks⟩, hrest⟩ := List.forall_mem_cons.mp h
    exact hasks.bind (ih v (hnext v hv) hrest)
  | note n next ih => exact ih hd h
  | draw next ih => exact fun serial => ih serial (hd serial) h

/-- With a counterpart that answers what is allowed, the dialogue goes just so. -/
theorem Asks.run (counterpart : (q : P.Question) → σ → P.Answer q × σ) (hd : Asks allowed d asked a)
    (h : ∀ q ∈ asked, ∀ s, allowed q (counterpart q s).1) (serials : Nat) (s : σ) :
    (Dialogue.run counterpart d serials s).value = a ∧
      Event.questions (Dialogue.run counterpart d serials s).events = asked := by
  induction d generalizing asked serials s with
  | done c =>
    obtain ⟨rfl, rfl⟩ := hd
    exact ⟨rfl, rfl⟩
  | ask q next ih =>
    obtain ⟨rest, rfl, hnext⟩ := hd
    obtain ⟨hq, hrest⟩ := List.forall_mem_cons.mp h
    obtain ⟨hvalue, hasked⟩ := ih _ (hnext _ (hq s)) hrest serials (counterpart q s).2
    exact ⟨hvalue, congrArg (q :: ·) hasked⟩
  | note n next ih => exact ih hd h serials s
  | draw next ih => exact ih _ (hd (serials + 1)) h (serials + 1) s

section Runs

variable {serves : (q : P.Question) → σ → P.Answer q → σ → Prop} {s t : σ}

/-- A counterpart that can answer what is allowed, and stays as it is, leads there. -/
theorem Asks.runs (hd : Asks allowed d asked a)
    (h : ∀ q ∈ asked, ∃ answer, allowed q answer ∧ serves q s answer s) : Runs serves d s a s := by
  induction d generalizing asked with
  | done c =>
    obtain ⟨rfl, rfl⟩ := hd
    exact .done _ _
  | ask q next ih =>
    obtain ⟨rest, rfl, hnext⟩ := hd
    obtain ⟨⟨answer, hallowed, hserves⟩, hrest⟩ := List.forall_mem_cons.mp h
    exact .ask hserves (ih answer (hnext answer hallowed) hrest)
  | note n next ih => exact .note (ih hd h)
  | draw next ih => exact .draw 0 (ih 0 (hd 0) h)

/-- A counterpart that answers only what is allowed, and stays as it is, leads nowhere else. -/
theorem Asks.only {c : α} (hd : Asks allowed d asked a)
    (h : ∀ q ∈ asked, ∀ answer t, serves q s answer t → allowed q answer ∧ t = s)
    (hruns : Runs serves d s c t) : c = a ∧ t = s := by
  induction hruns generalizing asked with
  | done c s =>
    obtain ⟨-, rfl⟩ := hd
    exact ⟨rfl, rfl⟩
  | ask hserves _ ih =>
    obtain ⟨rest, rfl, hnext⟩ := hd
    obtain ⟨hq, hrest⟩ := List.forall_mem_cons.mp h
    obtain ⟨hallowed, rfl⟩ := hq _ _ hserves
    exact ih (hnext _ hallowed) hrest
  | note _ ih => exact ih hd h
  | draw serial _ ih => exact ih (hd serial) h

end Runs

end Settled
end LakeStore.Dialogue
