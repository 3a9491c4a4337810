import LakeStore.Instrument
import LakeStore.Script

/-!
Rehearsals of instrumented calls: calls with a known outcome, under concerns of which everything that they
do is written down.

A rehearsed call may make further calls of the same operation before it ends. Its concerns and the tracer
may be told to fail, the clock shows readings from a script, and spans are numbered in the order in which
they were asked for.
-/

namespace LakeStore.Rehearsal

/-- What is seen of a rehearsal. -/
inductive Event where
  /-- A record with everything that was bound when it was written. -/
  | logged (level : Log.Level) (message : String) (bound : Log.Context)
  /-- The concern of a name was told of a call. -/
  | told (concern : String) (i : Invocation)
  /-- The concern of a name was told of the end of a call. -/
  | toldEnd (concern : String) (c : Completion)
  | spanStarted (span : Nat) (name : String)
  | spanAttribute (span : Nat) (name : String) (value : Value)
  | spanFailed (span : Nat)
  | spanEnded (span : Nat)
  /-- The body of the call with this label began. -/
  | began (label : String)
  /-- A call ended for its caller. -/
  | ended (outcome : Except Fault Value)

/-- What a tracer has done: how many spans were asked of it, and which are open, the innermost first. -/
structure Spans where
  asked : Nat := 0
  opened : List Nat := []
  deriving DecidableEq, Repr

/-- Everything that a rehearsal changes. -/
structure World where
  context : Log.Context.Scope := {}
  events : List Event := []
  /-- The readings that the clock is to show. -/
  readings : List Binary64 := []
  /-- The tracers by number. -/
  tracers : List Spans := []

/-- A computation in a rehearsal. -/
abbrev Play := StateM World

/-- Writes an event down. -/
def see (e : Event) : Play Unit := modify fun w => { w with events := w.events ++ [e] }

/-- The next reading of the clock; a clock without readings stands at zero. -/
def clock : Play Binary64 := modifyGet fun w =>
  let (reading, rest) := Script.next w.readings
  (reading.getD .zero, { w with readings := rest })

/-- Writes records down, with their fields bound for the moment. -/
def recorder : Recorder Play := fun level message fields => do
  modify fun w => { w with context := w.context.enter fields }
  see (.logged level message (← get).context.current)
  modify fun w => { w with context := w.context.leave }

/-- Fails if there is something to fail with. -/
def failing (fault : Option Fault) : ExceptT Fault Play Unit :=
  match fault with
  | some f => throw f
  | none => pure ()

/-- A concern that writes down what it is told of, unless it fails. -/
def concern (name : String) (failsAtStart failsAtEnd : Option Fault) : Concern Play where
  name := name
  onInvocation i := do
    failing failsAtStart
    see (.told name i)
  onCompletion c := do
    failing failsAtEnd
    see (.toldEnd name c)

/-- Changes what a tracer has done. -/
def modifySpans (tracer : Nat) (f : Spans → Spans) : Play Unit :=
  modify fun w => { w with tracers := w.tracers.modify tracer f }

/-- What a tracer has done. -/
def spans (tracer : Nat) : Play Spans := return (← get).tracers.getD tracer {}

/-- The failure to start a span. -/
def noSpan (n : Nat) : Fault := .foreign ⟨"RuntimeError", "no span " ++ toString n, .unknown⟩

/-- A tracer that writes down what becomes of its spans, except that some of them cannot be started. Where
failed spans cannot be marked, nothing is seen of it. -/
def tracer (number : Nat) (marks : Bool) (missing : List Nat) : Tracer Play Nat where
  start name := do
    modifySpans number fun s => { s with asked := s.asked + 1 }
    let n := (← spans number).asked
    if missing.contains n then throw (noSpan n)
    see (.spanStarted n name)
    return n
  setAttribute n name v := see (.spanAttribute n name v)
  markFailed n := if marks then see (.spanFailed n) else pure ()
  finish n := see (.spanEnded n)
  opened := return (← spans number).opened
  setOpened opened := modifySpans number fun s => { s with opened }

/-- A concern of which nothing is seen. -/
def unseen (name : String) : Concern Play := ⟨name, fun _ => pure (), fun _ => pure ()⟩

/-- A call to rehearse: its label, its arguments, the calls that it makes, and how it ends. -/
inductive Scene where
  | call (label : String) (arguments : List (String × Value)) (nested : List Scene)
      (ending : Except Fault Value)

/-- An operation under an instrument: where its calls come from and which arguments identify them. -/
structure Operation where
  instrument : Instrument Play
  component : String
  name : String
  identifying : List String

namespace Operation

variable (o : Operation)

mutual

/-- Rehearses a call. The calls that it makes do not decide how it ends. -/
def play : Scene → Play Unit
  | .call label arguments nested ending => do
    let i : Invocation := ⟨o.component, o.name, Invocation.referencesOf o.identifying arguments⟩
    let outcome ← o.instrument.observe i (do
      see (.began label)
      playAll nested
      liftM ending) |>.run
    see (.ended outcome)

/-- Rehearses calls in order. -/
def playAll : List Scene → Play Unit
  | [] => pure ()
  | s :: rest => do
    play s
    playAll rest

end

end Operation

end LakeStore.Rehearsal
