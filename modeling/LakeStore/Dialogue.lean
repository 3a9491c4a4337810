import LakeStore.Log.Note

/-!
Computations that talk to a counterpart.

A dialogue either is done, or asks a question and goes on with whatever is answered; between questions it
may write to the log and draw serial numbers. It says nothing about who answers: the same dialogue runs
against a script, against a model of the remote, or is carried over question by question into a dialogue
with another counterpart (`Dialogue.via`).
-/

namespace LakeStore

/-- What may be asked of a counterpart, and what each question is answered with. -/
structure Protocol where
  Question : Type
  Answer : Question → Type

/-- A computation that talks to a counterpart of the protocol `P` and ends with a value. -/
inductive Dialogue (P : Protocol) (α : Type) where
  | done (a : α)
  | ask (q : P.Question) (next : P.Answer q → Dialogue P α)
  | note (n : Log.Note) (next : Dialogue P α)
  /-- Draws the next serial number, which no one drew before. -/
  | draw (next : Nat → Dialogue P α)

namespace Dialogue

variable {P Q : Protocol} {α β σ : Type}

/-- One computation after the other. -/
def bind : Dialogue P α → (α → Dialogue P β) → Dialogue P β
  | .done a, f => f a
  | .ask q next, f => .ask q fun answer => bind (next answer) f
  | .note n next, f => .note n (bind next f)
  | .draw next, f => .draw fun serial => bind (next serial) f

instance : Monad (Dialogue P) where
  pure := .done
  bind := .bind

/-- A single question. -/
def question (q : P.Question) : Dialogue P (P.Answer q) := .ask q .done

/-- A single log record. -/
def log (n : Log.Note) : Dialogue P Unit := .note n (.done ())

/-- A single serial number. -/
def serial : Dialogue P Nat := .draw .done

/-- The same computation with another counterpart: each question becomes a dialogue that answers it. -/
def via (answer : (q : P.Question) → Dialogue Q (P.Answer q)) : Dialogue P α → Dialogue Q α
  | .done a => .done a
  | .ask q next => (answer q).bind fun a => via answer (next a)
  | .note n next => .note n (via answer next)
  | .draw next => .draw fun serial => via answer (next serial)

/-- Something that happened in a dialogue. -/
inductive Event (P : Protocol) where
  | asked (q : P.Question)
  | noted (n : Log.Note)

/-- How a dialogue went: its value, what happened in order, the serial numbers drawn so far, and the
state in which the counterpart was left. -/
structure Outcome (P : Protocol) (σ α : Type) where
  value : α
  events : List (Event P)
  serials : Nat
  state : σ

/-- Runs a dialogue with a counterpart that answers from a state. `serials` numbers were drawn before;
numbers count from one. -/
def run (counterpart : (q : P.Question) → σ → P.Answer q × σ) :
    Dialogue P α → (serials : Nat) → σ → Outcome P σ α
  | .done a, serials, s => ⟨a, [], serials, s⟩
  | .ask q next, serials, s =>
    let (answer, s) := counterpart q s
    let rest := run counterpart (next answer) serials s
    { rest with events := .asked q :: rest.events }
  | .note n next, serials, s =>
    let rest := run counterpart next serials s
    { rest with events := .noted n :: rest.events }
  | .draw next, serials, s => run counterpart (next (serials + 1)) (serials + 1) s

/-- The questions among some events. -/
def Event.questions (events : List (Event P)) : List P.Question :=
  events.filterMap fun
    | .asked q => some q
    | .noted _ => none

/-- The log records among some events. -/
def Event.notes (events : List (Event P)) : List Log.Note :=
  events.filterMap fun
    | .asked _ => none
    | .noted n => some n

end Dialogue

end LakeStore
