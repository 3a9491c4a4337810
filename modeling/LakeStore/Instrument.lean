import LakeStore.Error
import LakeStore.Log.Context
import LakeStore.Log.Note

/-!
Instrumentation of public operations.

An instrumented operation tells a list of concerns when it starts and how it ended. A concern that fails is
noted and passed over, and never changes the outcome of the operation. A request to stop is no outcome: it
passes through untold.

Two concerns come with the library. One writes records of start and end; the other opens a span per call and
closes the innermost one that is open when a call ends.
-/

namespace LakeStore

/-- A call of a public operation. -/
structure Invocation where
  component : String
  operation : String
  /-- The identifiers that the call was given, by the names of its arguments. -/
  references : List (String × String)
  deriving DecidableEq, Repr

namespace Invocation

/-- The texts of those arguments, among some names, that are neither absent nor empty. -/
def referencesOf (names : List String) (arguments : List (String × Value)) : List (String × String) :=
  names.foldl (fun found name =>
    match Entries.find? name arguments with
    | none | some .null | some (.text "") => found
    | some v => Entries.put name v.display found) []

/-- The name of the span of a call. -/
def spanName (i : Invocation) : String := "public_api." ++ i.component ++ "." ++ i.operation

/-- The log fields of a call. -/
def fields (i : Invocation) : List (String × Value) :=
  Entries.putAll [("component_id", .text i.component), ("api_name", .text i.operation)]
    (Entries.mapValues Value.text i.references)

end Invocation

/-- The end of a call. -/
structure Completion where
  invocation : Invocation
  durationMs : Binary64
  /-- What the call failed with, if it failed. -/
  failure : Option Fault

namespace Completion

/-- Whether the call succeeded. -/
def isSuccess (c : Completion) : Bool := c.failure.isNone

/-- What the call failed with, in words. -/
def errors (c : Completion) : List String := c.failure.toList.map Fault.summary

/-- The categories of what the call failed with. -/
def categories (c : Completion) : List String := c.failure.toList.map fun f => f.category.name

/-- The number of what the call failed with. -/
def errno (c : Completion) : Option Value := c.failure.map Fault.errno

/-- The log fields of the end of a call. -/
def fields (c : Completion) : List (String × Value) :=
  Entries.putAll c.invocation.fields
    ([("event", .text "public_api_completion"), ("success", .bool c.isSuccess),
      ("duration_ms", .real c.durationMs)]
    ++ (match c.errno with
      | none => []
      | some n =>
        [("errors", .list (c.errors.map .text)), ("error_category", .text (Text.join "," c.categories)),
         ("errno", n)]))

end Completion

/-- Something that is told of calls. Each hook may fail. -/
structure Concern (m : Type → Type) where
  name : String
  onInvocation : Invocation → ExceptT Fault m Unit
  onCompletion : Completion → ExceptT Fault m Unit

/-- Writes a record with some fields on top of what is bound. -/
abbrev Recorder (m : Type → Type) := Log.Level → String → List (String × Value) → m Unit

/-- Where spans come from, and which are open here, the innermost first. Every call may fail. -/
structure Tracer (m : Type → Type) (Span : Type) where
  start : String → ExceptT Fault m Span
  setAttribute : Span → String → Value → ExceptT Fault m Unit
  markFailed : Span → ExceptT Fault m Unit
  finish : Span → ExceptT Fault m Unit
  opened : m (List Span)
  setOpened : List Span → m Unit

namespace Concern

variable {m : Type → Type} [Monad m] {Span : Type}

/-- Records each call: its start for debugging, success for information, failure as a warning. -/
def logging (record : Recorder m) : Concern m where
  name := "PublicApiLoggingConcern"
  onInvocation i :=
    record .debug "blob operation started"
      (Entries.put "event" (.text "public_api_invocation") i.fields)
  onCompletion c :=
    if c.isSuccess then record .info "blob operation completed" c.fields
    else record .warning "blob operation failed" c.fields

/-- Opens a span for each call, and closes the innermost open one at its end. -/
def tracing (t : Tracer m Span) : Concern m where
  name := "PublicApiTracingConcern"
  onInvocation i := do
    let span ← t.start i.spanName
    t.setAttribute span "component_id" (.text i.component)
    t.setAttribute span "api_name" (.text i.operation)
    for (name, value) in i.references do
      t.setAttribute span ("reference." ++ name) (.text value)
    t.setOpened (span :: (← t.opened))
  onCompletion c := do
    match ← t.opened with
    | [] => return
    | span :: rest =>
      t.setOpened rest
      t.setAttribute span "success" (.bool c.isSuccess)
      t.setAttribute span "duration_ms" (.real c.durationMs)
      if !c.isSuccess then
        t.setAttribute span "error_category" (.text (Text.join "," c.categories))
        t.markFailed span
      t.finish span

end Concern

/-- The concerns of an operation, where failing concerns are noted, and the clock in seconds. -/
structure Instrument (m : Type → Type) where
  concerns : List (Concern m)
  record : Option (Recorder m) := none
  clock : m Binary64

namespace Instrument

variable {m : Type → Type} [Monad m] {α : Type}

/-- What is wrong with an instrument without concerns. -/
def noConcern : String := "public_api_instrumented requires at least one concern"

/-- The instrument with some concerns, and one for records if there is a place for them. -/
def make (record : Option (Recorder m)) (concerns : List (Concern m)) (clock : m Binary64) :
    Except String (Instrument m) :=
  match record.toList.map Concern.logging ++ concerns with
  | [] => .error noConcern
  | all => .ok ⟨all, record, clock⟩

/-- The log fields of a failed hook. -/
def failureFields (i : Invocation) (stage concern : String) (f : Fault) : List (String × Value) :=
  Entries.putAll i.fields
    [("event", .text "public_api_instrumentation_failure"), ("stage", .text stage),
     ("concern", .text concern), ("errors", .list [.text f.summary])]

/-- Runs one hook of each concern. A hook that fails is noted; a request to stop ends it all. -/
def tell (x : Instrument m) (stage : String) (i : Invocation) (hook : Concern m → ExceptT Fault m Unit) :
    List (Concern m) → ExceptT Fault m Unit
  | [] => return ()
  | c :: rest => do
    match ← ExceptT.lift (hook c).run with
    | .ok () => pure ()
    | .error f =>
      if f.isInterrupt then throw f
      else
        match x.record with
        | some record =>
            record .warning "blob operation instrumentation failed" (failureFields i stage c.name f)
        | none => pure ()
    x.tell stage i hook rest

/-- The milliseconds since a reading of the clock, to the microsecond. -/
def elapsed (x : Instrument m) (started : Binary64) : m Binary64 := do
  return (((← x.clock).sub started).mul (.ofInt 1000)).roundPlaces 3

/-- Tells the concerns that a call ended. -/
def complete (x : Instrument m) (i : Invocation) (started : Binary64) (failure : Option Fault) :
    ExceptT Fault m Unit := do
  let c : Completion := ⟨i, ← x.elapsed started, failure⟩
  x.tell "on_completion" i (fun concern => concern.onCompletion c) x.concerns

/-- A call under observation. Its outcome is that of the call itself. -/
def observe (x : Instrument m) (i : Invocation) (call : ExceptT Fault m α) : ExceptT Fault m α := do
  x.tell "on_invocation" i (fun concern => concern.onInvocation i) x.concerns
  let started ← x.clock
  match ← ExceptT.lift call.run with
  | .ok a =>
    x.complete i started none
    return a
  | .error f =>
    if !f.isInterrupt then x.complete i started (some f)
    throw f

end Instrument

end LakeStore
