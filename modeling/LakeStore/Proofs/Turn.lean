import LakeStore.Proofs.Dialogue

/-!
Conversations written down, question by question.

A conversation is the list of its turns, each a question with its answer. What is true of every conversation
of a dialogue is true whoever answers, since any answer may stand in a turn. A dialogue that is carried over
into another protocol goes through one conversation there for each of its own turns.
-/

namespace LakeStore.Dialogue

variable {P Q : Protocol} {α β : Type}

/-- A question and what it was answered. -/
structure Turn (P : Protocol) where
  question : P.Question
  answer : P.Answer question

/-- The counterpart that answers as it is written down. -/
def written (q : P.Question) (s : List (Turn P)) (answer : P.Answer q) (t : List (Turn P)) : Prop :=
  s = ⟨q, answer⟩ :: t

/-- A dialogue that went through these turns and ended with this value. -/
def Went (d : Dialogue P α) (turns : List (Turn P)) (a : α) : Prop := Runs written d turns a []

section Went

variable {d : Dialogue P α} {turns : List (Turn P)} {a : α} {b : β}

theorem written_iff (q : P.Question) (s : List (Turn P)) (answer : P.Answer q) (t : List (Turn P)) :
    written q s answer t ↔ ∃ x, s = x :: t ∧ x = ⟨q, answer⟩ :=
  ⟨fun h => ⟨_, h, rfl⟩, by rintro ⟨x, rfl, rfl⟩; rfl⟩

theorem went_done {c : α} : Went (.done c : Dialogue P α) turns a ↔ turns = [] ∧ a = c :=
  runs_done_iff.trans (by rw [and_comm, eq_comm])

theorem went_ask {q : P.Question} {next : P.Answer q → Dialogue P α} :
    Went (.ask q next) turns a ↔ ∃ answer rest, turns = ⟨q, answer⟩ :: rest ∧ Went (next answer) rest a :=
  runs_ask_iff

theorem went_question {q : P.Question} {answer : P.Answer q} :
    Went (question q) turns answer ↔ turns = [⟨q, answer⟩] := by
  rw [question, went_ask]
  constructor
  · rintro ⟨a, rest, rfl, hdone⟩
    obtain ⟨rfl, rfl⟩ := went_done.mp hdone
    rfl
  · rintro rfl
    exact ⟨answer, [], rfl, went_done.mpr ⟨rfl, rfl⟩⟩

theorem went_draw {next : Nat → Dialogue P α} : Went (.draw next) turns a ↔
    ∃ serial, Went (next serial) turns a :=
  runs_draw_iff

/-- One dialogue after the other: their turns follow each other. -/
theorem went_bind {f : α → Dialogue P β} :
    Went (d >>= f) turns b ↔ ∃ a xs ys, turns = xs ++ ys ∧ Went d xs a ∧ Went (f a) ys b := by
  rw [Went, runs_bind]
  constructor
  · rintro ⟨a, ys, hd, hf⟩
    obtain ⟨xs, rfl, hxs⟩ := (runs_list_iff written_iff).mp hd
    exact ⟨a, xs, ys, rfl, hxs, hf⟩
  · rintro ⟨a, xs, ys, rfl, hd, hf⟩
    exact ⟨a, ys, (runs_list_iff written_iff).mpr ⟨xs, rfl, hd⟩, hf⟩

/-- A computation that may fail goes on after a value, and ends with a failure. -/
theorem went_run_bind {ε : Type} {x : ExceptT ε (Dialogue P) α} {f : α → ExceptT ε (Dialogue P) β}
    {r : Except ε β} :
    Went (x >>= f).run turns r ↔
      (∃ a xs ys, turns = xs ++ ys ∧ Went x.run xs (.ok a) ∧ Went (f a).run ys r) ∨
        ∃ e, Went x.run turns (.error e) ∧ r = .error e := by
  rw [Went, runs_run_bind]
  refine or_congr_left ⟨?_, ?_⟩
  · rintro ⟨a, ys, hx, hf⟩
    obtain ⟨xs, rfl, hxs⟩ := (runs_list_iff written_iff).mp hx
    exact ⟨a, xs, ys, rfl, hxs, hf⟩
  · rintro ⟨a, xs, ys, rfl, hx, hf⟩
    exact ⟨a, ys, (runs_list_iff written_iff).mpr ⟨xs, rfl, hx⟩, hf⟩

theorem went_run_pure {ε : Type} {r : Except ε α} :
    Went (pure a : ExceptT ε (Dialogue P) α).run turns r ↔ turns = [] ∧ r = .ok a := went_done

theorem went_run_throw {ε : Type} {e : ε} {r : Except ε α} :
    Went (throw e : ExceptT ε (Dialogue P) α).run turns r ↔ turns = [] ∧ r = .error e := went_done

theorem went_run_serial {ε : Type} {r : Except ε Nat} :
    Went (ExceptT.lift serial : ExceptT ε (Dialogue P) Nat).run turns r ↔ turns = [] ∧ ∃ n, r = .ok n :=
  went_draw.trans ⟨fun ⟨n, h⟩ => ⟨(went_done.mp h).1, n, (went_done.mp h).2⟩,
    fun ⟨hturns, n, hn⟩ => ⟨n, went_done.mpr ⟨hturns, hn⟩⟩⟩

theorem went_run_log {ε : Type} {n : Log.Note} {r : Except ε Unit} :
    Went (ExceptT.lift (log n) : ExceptT ε (Dialogue P) Unit).run turns r ↔ turns = [] ∧ r = .ok () :=
  runs_note_iff.trans went_done

/-- What is known already is no part of the conversation. -/
theorem went_run_lift {ε : Type} {x r : Except ε α} :
    Went (liftM x : ExceptT ε (Dialogue P) α).run turns r ↔ turns = [] ∧ r = x := went_done

/-- A dialogue that says one thing, log records aside, has one turn. -/
theorem went_of_silent_eq {q : P.Question} {f : P.Answer q → α}
    (h : d.silent = .ask q fun answer => .done (f answer)) :
    Went d turns a ↔ ∃ answer, turns = [⟨q, answer⟩] ∧ a = f answer := runs_of_silent_eq h

/-- Whatever is asked in a conversation is asked whoever answers. -/
theorem Went.always {p : P.Question → Prop} {post : α → Prop} (hd : Always p post d) (h : Went d turns a) :
    (∀ x ∈ turns, p x.question) ∧ post a := by
  induction d generalizing turns with
  | done c =>
    obtain ⟨rfl, rfl⟩ := went_done.mp h
    exact ⟨fun _ hx => absurd hx List.not_mem_nil, hd⟩
  | ask q next ih =>
    obtain ⟨answer, rest, rfl, hrest⟩ := went_ask.mp h
    obtain ⟨hturns, hpost⟩ := ih answer (hd.2 answer) hrest
    exact ⟨List.forall_mem_cons.mpr ⟨hd.1, hturns⟩, hpost⟩
  | note n next ih => exact ih hd (runs_note_iff.mp h)
  | draw next ih =>
    obtain ⟨serial, hrest⟩ := went_draw.mp h
    exact ih serial (hd serial) hrest

/-- What is run by a counterpart is a conversation with its answers. -/
theorem went_run {σ : Type} (counterpart : (q : P.Question) → σ → P.Answer q × σ) (d : Dialogue P α)
    (serials : Nat) (s : σ) : ∃ turns, Went d turns (run counterpart d serials s).value ∧
      Event.questions (run counterpart d serials s).events = turns.map Turn.question ∧
      ∀ x ∈ turns, ∃ s', x.answer = (counterpart x.question s').1 := by
  induction d generalizing serials s with
  | done a => exact ⟨[], went_done.mpr ⟨rfl, rfl⟩, rfl, fun _ hx => absurd hx List.not_mem_nil⟩
  | ask q next ih =>
    obtain ⟨turns, hwent, hasked, hanswers⟩ := ih _ serials (counterpart q s).2
    exact ⟨⟨q, (counterpart q s).1⟩ :: turns, went_ask.mpr ⟨_, turns, rfl, hwent⟩, congrArg (q :: ·) hasked,
      List.forall_mem_cons.mpr ⟨⟨s, rfl⟩, hanswers⟩⟩
  | note n next ih =>
    obtain ⟨turns, hwent, hasked, hanswers⟩ := ih serials s
    exact ⟨turns, runs_note_iff.mpr hwent, hasked, hanswers⟩
  | draw next ih =>
    obtain ⟨turns, hwent, hasked, hanswers⟩ := ih (serials + 1) (serials + 1) s
    exact ⟨turns, went_draw.mpr ⟨serials + 1, hwent⟩, hasked, hanswers⟩

end Went

/-! ### Conversations carried over -/

/-- A turn, and the conversation in another protocol that its answer comes from. -/
structure Errand (P Q : Protocol) where
  turn : Turn P
  turns : List (Turn Q)

/-- A dialogue that is carried over goes through one conversation for each of its turns. -/
theorem went_via {answer : (q : P.Question) → Dialogue Q (P.Answer q)} {d : Dialogue P α}
    {turns : List (Turn Q)} {a : α} :
    Went (via answer d) turns a ↔ ∃ errands : List (Errand P Q), turns = errands.flatMap Errand.turns ∧
      (∀ x ∈ errands, Went (answer x.turn.question) x.turns x.turn.answer) ∧
      Went d (errands.map Errand.turn) a := by
  induction d generalizing turns with
  | done b =>
    show Went (.done b) turns a ↔ _
    simp only [went_done, List.map_eq_nil_iff]
    constructor
    · rintro ⟨rfl, rfl⟩; exact ⟨[], rfl, fun _ hx => absurd hx List.not_mem_nil, rfl, rfl⟩
    · rintro ⟨errands, rfl, -, rfl, rfl⟩; exact ⟨rfl, rfl⟩
  | ask q next ih =>
    show Went (answer q >>= fun b => via answer (next b)) turns a ↔ _
    rw [went_bind]
    constructor
    · rintro ⟨b, xs, ys, rfl, hxs, hys⟩
      obtain ⟨errands, rfl, herrands, hd⟩ := (ih b).mp hys
      exact ⟨⟨⟨q, b⟩, xs⟩ :: errands, rfl, List.forall_mem_cons.mpr ⟨hxs, herrands⟩,
        went_ask.mpr ⟨b, _, rfl, hd⟩⟩
    · rintro ⟨errands, rfl, herrands, hd⟩
      obtain ⟨b, rest, hturns, hrest⟩ := went_ask.mp hd
      obtain ⟨x, errands, rfl, hx, rfl⟩ := List.map_eq_cons_iff.mp hturns
      obtain ⟨hfirst, hlater⟩ := List.forall_mem_cons.mp herrands
      rw [hx] at hfirst
      exact ⟨b, x.turns, _, rfl, hfirst, (ih b).mpr ⟨errands, rfl, hlater, hrest⟩⟩
  | note n next ih =>
    show Went (.note n (via answer next)) turns a ↔ _
    simp only [Went, runs_note_iff]
    exact ih
  | draw next ih =>
    show Went (.draw fun serial => via answer (next serial)) turns a ↔ _
    simp only [went_draw, ih]
    constructor
    · rintro ⟨serial, errands, hturns, herrands, hd⟩; exact ⟨errands, hturns, herrands, serial, hd⟩
    · rintro ⟨errands, hturns, herrands, serial, hd⟩; exact ⟨serial, errands, hturns, herrands, hd⟩

end LakeStore.Dialogue
