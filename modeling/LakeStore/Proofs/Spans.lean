import LakeStore.Proofs.Observation

/-!
Spans of calls within calls.

The concern that traces calls puts the span of a call on a stack when the call starts, and ends the
innermost span of the stack when the call ends. So each call ends its own span as long as every call that
starts while a span is open gets one. A call that gets none, since its span cannot be started or described,
takes the span of the call around it.
-/

namespace LakeStore.Tracing

/-! ### What is written down -/

/-- What is written down of spans, which are numbered in the order in which they were asked for, and of the
stack when a call has returned to its caller. Durations are left out: they are the clock's. -/
inductive Entry where
  | started (span : Nat) (name : String)
  | labelled (span : Nat) (name : String) (value : Value)
  | failed (span : Nat)
  | ended (span : Nat)
  | returned (opened : List Nat)
  deriving DecidableEq

/-- How many spans were asked for, which are open, the innermost first, and what was written down. -/
structure Ledger where
  asked : Nat := 0
  opened : List Nat := []
  journal : List Entry := []
  deriving DecidableEq

/-- The ledger after some entries. -/
def Ledger.write (l : Ledger) (es : List Entry) : Ledger := { l with journal := l.journal ++ es }

/-- Which spans cannot be started, and which attributes of spans cannot be set when a call starts, and why
not: never since the process is to stop. The end of a call has no trouble. -/
structure Trouble where
  ofStart : Nat → Option Fault
  ofLabel : Nat → String → Option Fault
  calm_ofStart : ∀ {n f}, ofStart n = some f → f.isInterrupt = false
  calm_ofLabel : ∀ {n name f}, ofLabel n name = some f → f.isInterrupt = false
  ofLabel_end : ∀ {n name}, name ∈ ["success", "duration_ms", "error_category"] → ofLabel n name = none

variable {W : Type} {d : Trouble} {i : Invocation} {l : Ledger} {n : Nat}

/-- Computations on a ledger and the rest of the world. -/
abbrev Book (W : Type) := StateM (Ledger × W)

/-- Changes the ledger. -/
def onLedger (f : Ledger → Ledger) : Book W Unit := modify (Prod.map f id)

/-- Writes entries down. -/
def write (es : List Entry) : Book W Unit := onLedger fun l => l.write es

/-- Fails if there is something to fail with, and does a task otherwise. -/
def trying (trouble : Option Fault) (task : Book W Unit) : ExceptT Fault (Book W) Unit :=
  match trouble with
  | some f => throw f
  | none => ExceptT.lift task

/-- The tracer that has such troubles. -/
def tracer (d : Trouble) : Tracer (Book W) Nat where
  start name := do
    let n : Nat ← ExceptT.lift (modifyGet fun s => (s.1.asked + 1, { s.1 with asked := s.1.asked + 1 }, s.2))
    trying (d.ofStart n) (write [.started n name])
    return n
  setAttribute n name v :=
    trying (d.ofLabel n name) (write (if name = "duration_ms" then [] else [.labelled n name v]))
  markFailed n := ExceptT.lift (write [.failed n])
  finish n := ExceptT.lift (write [.ended n])
  opened := return (← get).1.opened
  setOpened opened := onLedger fun l => { l with opened }

/-! ### The concern -/

/-- The attributes that a span has from the start. -/
def labels (i : Invocation) : List (String × Value) :=
  [("component_id", .text i.component), ("api_name", .text i.operation)]
    ++ i.references.map fun a => ("reference." ++ a.1, .text a.2)

/-- What is written down when attributes are set, and the trouble that ends it. -/
def Trouble.described (d : Trouble) (n : Nat) : List (String × Value) → Option Fault × List Entry
  | [] => (none, [])
  | (name, v) :: rest =>
    match d.ofLabel n name with
    | some f => (some f, [])
    | none => ((d.described n rest).1, .labelled n name v :: (d.described n rest).2)

/-- What is written down when a span is opened for a call, and the trouble that keeps it from the stack. -/
def Trouble.opening (d : Trouble) (n : Nat) (i : Invocation) : Option Fault × List Entry :=
  match d.ofStart n with
  | some f => (some f, [])
  | none => ((d.described n (labels i)).1, .started n i.spanName :: (d.described n (labels i)).2)

/-- What is written down when the span of a call is ended. -/
def closing (n : Nat) (failure : Option Fault) : List Entry :=
  .labelled n "success" (.bool failure.isNone)
    :: failure.toList.flatMap (fun f => [.labelled n "error_category" (.text f.category.name), .failed n])
    ++ [.ended n]

/-- The ledger after a call has started. -/
def Ledger.open (l : Ledger) (d : Trouble) (i : Invocation) : Ledger :=
  match d.opening (l.asked + 1) i with
  | (some _, es) => { l.write es with asked := l.asked + 1 }
  | (none, es) => { l.write es with asked := l.asked + 1, opened := (l.asked + 1) :: l.opened }

/-- The ledger after a call has ended: the innermost open span is ended. -/
def Ledger.close (l : Ledger) (failure : Option Fault) : Ledger :=
  match l.opened with
  | [] => l
  | n :: rest => { l.write (closing n failure) with opened := rest }

theorem trying_write_run (trouble : Option Fault) (es : List Entry) (l : Ledger) (w : W) :
    (trying trouble (write es)).run.run (l, w) =
      match trouble with
      | some f => (.error f, (l, w))
      | none => (.ok (), (l.write es, w)) := by
  cases trouble <;> rfl

theorem Ledger.write_write (l : Ledger) (es more : List Entry) :
    (l.write es).write more = l.write (es ++ more) := by
  simp [Ledger.write]

theorem Ledger.write_nil (l : Ledger) : l.write [] = l := by
  simp [Ledger.write]

/-- A result that has this trouble. -/
def troubled : Option Fault → Except Fault Unit
  | some f => .error f
  | none => .ok ()

theorem setAttribute_run (name : String) (v : Value) (w : W) (h : name ≠ "duration_ms") :
    ((tracer d).setAttribute n name v).run.run (l, w) =
      match d.ofLabel n name with
      | some f => (.error f, (l, w))
      | none => (.ok (), (l.write [.labelled n name v], w)) := by
  show (trying _ (write (if name = "duration_ms" then [] else _))).run.run (l, w) = _
  rw [if_neg h, trying_write_run]

/-- Setting attributes one after the other. -/
theorem describe_run (references : List (String × String)) (w : W) :
    (forIn references PUnit.unit fun (a : String × String) _ => do
        (tracer d).setAttribute n ("reference." ++ a.1) (.text a.2)
        pure (ForInStep.yield PUnit.unit) : ExceptT Fault (Book W) PUnit).run.run (l, w) =
      let r := d.described n (references.map fun a => ("reference." ++ a.1, .text a.2))
      (troubled r.1, (l.write r.2, w)) := by
  induction references generalizing l with
  | nil => rw [List.map_nil, Trouble.described]; dsimp only; rw [Ledger.write_nil]; rfl
  | cons a references ih =>
    have hname : "reference." ++ a.1 ≠ "duration_ms" := fun h => by
      simpa using congrArg String.toList h
    rw [List.forIn_cons, run_run_bind, run_run_bind, setAttribute_run _ _ _ hname, List.map_cons,
      Trouble.described]
    cases d.ofLabel n ("reference." ++ a.1) with
    | some f => simp only [Ledger.write_nil]; rfl
    | none =>
      show (forIn references PUnit.unit _ : ExceptT Fault (Book W) PUnit).run.run _ = _
      rw [ih]
      simp only [Ledger.write_write]
      rfl

theorem start_run (name : String) (w : W) :
    ((tracer d).start name).run.run (l, w) =
      match d.ofStart (l.asked + 1) with
      | some f => (.error f, ({ l with asked := l.asked + 1 }, w))
      | none =>
          (.ok (l.asked + 1), ({ l with asked := l.asked + 1 }.write [.started (l.asked + 1) name], w)) := by
  show (trying (d.ofStart (l.asked + 1)) (write [.started (l.asked + 1) name])
    >>= fun _ => pure (l.asked + 1) : ExceptT Fault (Book W) Nat).run.run
      ({ l with asked := l.asked + 1 }, w) = _
  rw [run_run_bind, trying_write_run]
  cases d.ofStart (l.asked + 1) <;> rfl

/-- The start of a call, as the ledger sees it. -/
theorem onInvocation_run {w : W} :
    ((Concern.tracing (tracer d)).onInvocation i).run.run (l, w) =
      (troubled (d.opening (l.asked + 1) i).1, (l.open d i, w)) := by
  show ((tracer d).start _ >>= _ : ExceptT Fault (Book W) Unit).run.run (l, w) = _
  rw [run_run_bind, start_run]
  simp only [Ledger.open, Trouble.opening]
  cases hstart : d.ofStart (l.asked + 1) with
  | some f => simp [troubled, Ledger.write]
  | none =>
    dsimp only
    rw [run_run_bind, setAttribute_run _ _ _ (by simp), labels, List.cons_append, Trouble.described]
    cases d.ofLabel (l.asked + 1) "component_id" with
    | some f => simp [troubled, Ledger.write]
    | none =>
      dsimp only
      rw [run_run_bind, setAttribute_run _ _ _ (by simp), List.cons_append, Trouble.described]
      cases d.ofLabel (l.asked + 1) "api_name" with
      | some f => simp [troubled, Ledger.write]
      | none =>
        dsimp only
        rw [run_run_bind, describe_run, List.nil_append]
        generalize d.described (l.asked + 1) (i.references.map fun a => ("reference." ++ a.1, .text a.2)) = r
        rcases r with ⟨_ | f, es⟩
        · -- all is set, and only now the span goes onto the stack
          show (Except.ok (), _) = (Except.ok (), _)
          simp only [Ledger.write, List.append_assoc, List.cons_append, List.nil_append]
          rfl
        · simp [troubled, Ledger.write]

theorem setAttribute_success_run (v : Value) (w : W) :
    ((tracer d).setAttribute n "success" v).run.run (l, w) =
      (.ok (), (l.write [.labelled n "success" v], w)) := by
  rw [setAttribute_run _ _ _ (by simp), d.ofLabel_end (by simp)]

theorem setAttribute_duration_run (v : Value) (w : W) :
    ((tracer d).setAttribute n "duration_ms" v).run.run (l, w) = (.ok (), (l, w)) := by
  show (trying _ (write (if "duration_ms" = "duration_ms" then [] else _))).run.run (l, w) = _
  rw [if_pos rfl, trying_write_run, d.ofLabel_end (by simp), Ledger.write_nil]

theorem setAttribute_category_run (v : Value) (w : W) :
    ((tracer d).setAttribute n "error_category" v).run.run (l, w) =
      (.ok (), (l.write [.labelled n "error_category" v], w)) := by
  rw [setAttribute_run _ _ _ (by simp), d.ofLabel_end (by simp)]

/-- The end of a call, as the ledger sees it. -/
theorem onCompletion_run {w : W} {c : Completion} :
    ((Concern.tracing (tracer d)).onCompletion c).run.run (l, w) = (.ok (), (l.close c.failure, w)) := by
  have hopened :
      (ExceptT.lift (tracer d).opened : ExceptT Fault (Book W) _).run.run (l, w) = (.ok l.opened, (l, w)) :=
    rfl
  have hset (rest : List Nat) :
      (ExceptT.lift ((tracer d).setOpened rest) : ExceptT Fault (Book W) _).run.run (l, w) =
      (.ok (), ({ l with opened := rest }, w)) := rfl
  rw [Ledger.close]
  show (ExceptT.lift (tracer d).opened >>= _ : ExceptT Fault (Book W) Unit).run.run (l, w) = _
  rw [run_run_bind, hopened]
  cases hl : l.opened with
  | nil => rfl
  | cons n rest =>
    show (ExceptT.lift ((tracer d).setOpened rest) >>= _ : ExceptT Fault (Book W) Unit).run.run (l, w) = _
    rw [run_run_bind, hset]
    dsimp only
    rw [run_run_bind, setAttribute_success_run]
    dsimp only
    rw [run_run_bind, setAttribute_duration_run]
    obtain ⟨i, duration, _ | f⟩ := c
    · show (Except.ok (), (Ledger.write (Ledger.write _ _) _, w)) = _
      rw [Ledger.write_write]
      rfl
    · show ((tracer d).setAttribute n "error_category" (.text f.category.name) >>= _ :
        ExceptT Fault (Book W) Unit).run.run _ = _
      rw [run_run_bind, setAttribute_category_run]
      show (Except.ok (), (Ledger.write (Ledger.write (Ledger.write (Ledger.write _ _) _) _) _, w)) = _
      simp only [Ledger.write_write]
      rfl

/-! ### Calls -/

/-- A task that leaves the ledger as it is, and fails, if it fails, with what is no request to stop. -/
structure Aloof (task : ExceptT Fault (Book W) Unit) : Prop where
  calm : Instrument.Calm task
  ledger : ∀ s, (task.run.run s).2.1 = s.1

/-- An operation one of whose concerns is the one that traces. The others, the log and the clock know
nothing of the spans. -/
structure Operation (d : Trouble) (W : Type) where
  component : String
  name : String
  identifying : List String
  before : List (Concern (Book W)) := []
  after : List (Concern (Book W)) := []
  record : Option (Recorder (Book W)) := none
  clock : Book W Binary64
  aloof_invocation : ∀ c ∈ before ++ after, ∀ i, Aloof (c.onInvocation i)
  aloof_completion : ∀ c ∈ before ++ after, ∀ e, Aloof (c.onCompletion e)
  aloof_record : ∀ r ∈ record, ∀ level message fields s, ((r level message fields).run s).2.1 = s.1
  aloof_clock : ∀ s, (clock.run s).2.1 = s.1

namespace Operation

/-- A call of an operation with some arguments. -/
def invocation (o : Operation d W) (arguments : List (String × Value)) : Invocation :=
  ⟨o.component, o.name, Invocation.referencesOf o.identifying arguments⟩

/-- The instrument of an operation. -/
def instrument (o : Operation d W) : Instrument (Book W) :=
  .made o.record (o.before ++ Concern.tracing (tracer d) :: o.after) o.clock

end Operation

/-- How a call ends by itself: by no request to stop. -/
abbrev Ending := { r : Except Fault Value // ∀ f, r = .error f → f.isInterrupt = false }

/-- Calls that are made one after the other, each with the calls that it makes before it ends. A caller that
does not catch what a call fails with makes no further call, and fails with the same. -/
inductive Calls (d : Trouble) (W : Type) where
  | done
  | call (o : Operation d W) (arguments : List (String × Value)) (inner : Calls d W) (ending : Ending)
      (rest : Calls d W)

namespace Calls

/-- Makes the calls. When a call has returned to its caller, the stack is written down. -/
def play : Calls d W → Book W Unit
  | .done => pure ()
  | .call o arguments inner ending rest => do
    let _ ← (o.instrument.observe (o.invocation arguments) (do
      ExceptT.lift inner.play
      liftM ending.val)).run
    onLedger fun l => l.write [.returned l.opened]
    rest.play

/-- The ledger after the calls. -/
def after : Calls d W → Ledger → Ledger
  | .done, l => l
  | .call o arguments inner ending rest, l =>
    let left := (inner.after (l.open d (o.invocation arguments))).close (failure? ending.val)
    rest.after (left.write [.returned left.opened])

end Calls

theorem Trouble.calm_described {labels : List (String × Value)} {f : Fault}
    (h : (d.described n labels).1 = some f) : f.isInterrupt = false := by
  induction labels with
  | nil => cases h
  | cons a labels ih =>
    rw [described] at h
    cases ha : d.ofLabel n a.1 with
    | some g =>
      rw [ha] at h
      obtain rfl := Option.some.inj h
      exact d.calm_ofLabel ha
    | none =>
      rw [ha] at h
      exact ih h

theorem Trouble.calm_opening {f : Fault} (h : (d.opening n i).1 = some f) : f.isInterrupt = false := by
  rw [opening] at h
  cases hstart : d.ofStart n with
  | some g =>
    rw [hstart] at h
    obtain rfl := Option.some.inj h
    exact d.calm_ofStart hstart
  | none =>
    rw [hstart] at h
    exact d.calm_described h

namespace Operation

variable {o : Operation d W} {s : Ledger × W} {stage : String}
  {hook : Concern (Book W) → ExceptT Fault (Book W) Unit} {cs : List (Concern (Book W))}

theorem aloof_lift {p : Book W Unit} (h : ∀ s, (p.run s).2.1 = s.1) :
    Aloof (ExceptT.lift p : ExceptT Fault (Book W) Unit) := ⟨Instrument.calm_lift p, h⟩

theorem aloof_logging {record : Recorder (Book W)}
    (h : ∀ level message fields s, ((record level message fields).run s).2.1 = s.1) :
    (∀ i, Aloof ((Concern.logging record).onInvocation i)) ∧
    ∀ e, Aloof ((Concern.logging record).onCompletion e) := by
  refine ⟨fun i => aloof_lift (h _ _ _), fun e => ?_⟩
  show Aloof (if e.isSuccess then _ else _)
  split <;> exact aloof_lift (h _ _ _)

/-- The concerns before the one that traces: the one for records comes first, if there is a place for them. -/
def front (o : Operation d W) : List (Concern (Book W)) := o.record.toList.map Concern.logging ++ o.before

/-- All concerns of an operation but the one that traces know nothing of the spans. -/
theorem aloof_others (o : Operation d W) {c : Concern (Book W)} (hc : c ∈ o.front ++ o.after) :
    (∀ i, Aloof (c.onInvocation i)) ∧ ∀ e, Aloof (c.onCompletion e) := by
  rw [front, List.append_assoc] at hc
  rcases List.mem_append.mp hc with hc | hc
  · obtain ⟨record, hrecord, rfl⟩ := List.mem_map.mp hc
    exact aloof_logging (o.aloof_record record (Option.mem_toList.mp hrecord))
  · exact ⟨o.aloof_invocation c hc, o.aloof_completion c hc⟩

theorem calm_onInvocation : Instrument.Calm ((Concern.tracing (tracer (W := W) d)).onInvocation i) := by
  rintro ⟨l, w⟩ f hf
  rw [onInvocation_run] at hf
  cases hopening : (d.opening (l.asked + 1) i).1 with
  | some g =>
    rw [hopening] at hf
    obtain rfl := Except.error.inj hf
    exact d.calm_opening hopening
  | none => rw [hopening] at hf; cases hf

theorem calm_onCompletion {e : Completion} :
    Instrument.Calm ((Concern.tracing (tracer (W := W) d)).onCompletion e) := by
  rintro ⟨l, w⟩ f hf
  rw [onCompletion_run] at hf
  cases hf

theorem patient (o : Operation d W) : o.instrument.Patient := by
  refine Instrument.patient_made (fun c hc i => ?_) fun c hc e => ?_ <;>
    rcases List.mem_append.mp hc with hc | hc
  · exact (o.aloof_invocation c (List.mem_append_left _ hc) i).calm
  · rcases List.mem_cons.mp hc with rfl | hc
    · exact calm_onInvocation
    · exact (o.aloof_invocation c (List.mem_append_right _ hc) i).calm
  · exact (o.aloof_completion c (List.mem_append_left _ hc) e).calm
  · rcases List.mem_cons.mp hc with rfl | hc
    · exact calm_onCompletion
    · exact (o.aloof_completion c (List.mem_append_right _ hc) e).calm

theorem note_ledger (concern : String) (f : Fault) :
    ((o.instrument.note stage i concern f).run s).2.1 = s.1 := by
  rw [Instrument.note]
  cases hr : o.instrument.record with
  | none => rfl
  | some r => exact o.aloof_record r hr _ _ _ _

/-- The note of a failure changes nothing of what a hook did to the ledger. -/
theorem told_ledger {c : Concern (Book W)} {g : Ledger → Ledger} (h : ∀ t, ((hook c).run.run t).2.1 = g t.1) :
    (o.instrument.told stage i hook s c).1 = g s.1 := by
  have hs := h s
  rcases Instrument.told_cases o.instrument stage i hook s c with
    ⟨t, hrun, htold⟩ | ⟨f, t, hrun, htold⟩ <;> rw [hrun] at hs <;> rw [htold]
  · exact hs
  · exact (note_ledger _ _).trans hs

theorem foldl_told_ledger (h : ∀ c ∈ cs, ∀ t, ((hook c).run.run t).2.1 = t.1) :
    (cs.foldl (o.instrument.told stage i hook) s).1 = s.1 := by
  induction cs generalizing s with
  | nil => rfl
  | cons c cs ih =>
    rw [List.foldl_cons, ih fun c hc => h c (List.mem_cons_of_mem _ hc)]
    exact told_ledger (g := id) (h c List.mem_cons_self)

/-- The concerns around the one that traces change nothing of what it does to the ledger. -/
theorem foldl_concerns_ledger {g : Ledger → Ledger}
    (h : ∀ c ∈ o.front ++ o.after, ∀ t, ((hook c).run.run t).2.1 = t.1)
    (htracing : ∀ t, ((hook (Concern.tracing (tracer d))).run.run t).2.1 = g t.1) :
    (o.instrument.concerns.foldl (o.instrument.told stage i hook) s).1 = g s.1 := by
  have hconcerns : o.instrument.concerns = o.front ++ Concern.tracing (tracer d) :: o.after :=
    (List.append_assoc _ _ _).symm
  rw [hconcerns, List.foldl_append, List.foldl_cons, foldl_told_ledger fun c hc =>
    h c (List.mem_append_right _ hc), told_ledger htracing, foldl_told_ledger fun c hc =>
      h c (List.mem_append_left _ hc)]

theorem opening_ledger : (o.instrument.opening i s).1 = s.1.open d i :=
  foldl_concerns_ledger (g := fun l => l.open d i) (fun c hc => ((o.aloof_others hc).1 i).ledger)
    fun t => by rw [onInvocation_run]

theorem closing_ledger {c : Completion} : (o.instrument.closing c s).1 = s.1.close c.failure :=
  foldl_concerns_ledger (g := fun l => l.close c.failure) (fun d hd => ((o.aloof_others hd).2 c).ledger)
    fun t => by rw [onCompletion_run]

/-- An observed call, as the ledger sees it. -/
theorem observe_ledger {call : ExceptT Fault (Book W) Value} {r : Ending} {g : Ledger → Ledger}
    (hcall : ∀ t, (call.run.run t).1 = r.val ∧ (call.run.run t).2.1 = g t.1) :
    ((o.instrument.observe i call).run.run s).2.1 = (g (s.1.open d i)).close (failure? r.val) := by
  have hbegun : (o.instrument.begun i s).2.1 = s.1.open d i := (o.aloof_clock _).trans opening_ledger
  obtain ⟨hr, ht⟩ := hcall (o.instrument.begun i s).2
  rw [o.patient.observe_run (Prod.ext hr rfl) r.property]
  show (o.instrument.closing _ _).1 = _
  rw [closing_ledger, ← hbegun, ← ht]
  exact congrArg (Ledger.close · _) (o.aloof_clock _)

end Operation

/-- What a call does before it ends. -/
def Calls.body (inner : Calls d W) (ending : Ending) : ExceptT Fault (Book W) Value := do
  ExceptT.lift inner.play
  liftM ending.val

/-- Calls change the ledger as they change the ledger that they are made with, whatever else there is. -/
theorem Calls.play_ledger (calls : Calls d W) (s : Ledger × W) :
    (calls.play.run s).2.1 = calls.after s.1 := by
  induction calls generalizing s with
  | done => rfl
  | call o arguments inner ending rest hinner hrest =>
    have hplay : (Calls.call o arguments inner ending rest).play.run s = rest.play.run
        (Prod.map (fun l => l.write [.returned l.opened]) id
          ((o.instrument.observe (o.invocation arguments) (inner.body ending)).run.run s).2) := rfl
    have hcall (t : Ledger × W) :
        ((inner.body ending).run.run t).1 = ending.val ∧
        ((inner.body ending).run.run t).2.1 = inner.after t.1 := by
      rw [body, run_run_bind, run_run_lift]
      exact ⟨rfl, hinner t⟩
    rw [hplay, hrest, Prod.map_fst, Operation.observe_ledger hcall]
    rfl

/-! ### Which spans calls end -/

/-- How many calls are made. -/
def Calls.size : Calls d W → Nat
  | .done => 0
  | .call _ _ inner _ rest => 1 + inner.size + rest.size

/-- The stack after a call has started. -/
def Trouble.stacked (d : Trouble) (n : Nat) (i : Invocation) (opened : List Nat) : List Nat :=
  match (d.opening n i).1 with
  | some _ => opened
  | none => n :: opened

/-- How many calls get no span on the stack. -/
def Calls.spanless : Calls d W → Nat → Nat
  | .done, _ => 0
  | .call o arguments inner _ rest, asked =>
    (d.opening (asked + 1) (o.invocation arguments)).1.toList.length + inner.spanless (asked + 1)
      + rest.spanless (asked + 1 + inner.size)

/-- What is written down at the end of a call that ends its own span, if it has one. -/
def Trouble.ownEnd (d : Trouble) (n : Nat) (i : Invocation) (failure : Option Fault) : List Entry :=
  match (d.opening n i).1 with
  | some _ => []
  | none => closing n failure

/-- What is written down if each call ends the span that it put on the stack, and no other, and leaves the
stack as it found it. -/
def Calls.story : Calls d W → Nat → List Nat → List Entry
  | .done, _, _ => []
  | .call o arguments inner ending rest, asked, opened =>
    let i := o.invocation arguments
    let n := asked + 1
    (d.opening n i).2
      ++ (inner.story n (d.stacked n i opened)
      ++ (d.ownEnd n i (failure? ending.val)
      ++ .returned opened :: rest.story (n + inner.size) opened))

/-- Every call that starts while a span is open gets a span. -/
def Calls.Upright : Calls d W → Nat → List Nat → Prop
  | .done, _, _ => True
  | .call o arguments inner _ rest, asked, opened =>
    let i := o.invocation arguments
    let n := asked + 1
    ((d.opening n i).1 = none ∨ opened = []) ∧ inner.Upright n (d.stacked n i opened)
      ∧ rest.Upright (n + inner.size) opened

/-- Two lists that are the same for a while, and then go on differently. -/
def Diverge (x y : List Entry) : Prop := ∃ q a b s t, a ≠ b ∧ x = q ++ a :: s ∧ y = q ++ b :: t

theorem Diverge.append_left {x y : List Entry} (z : List Entry) (h : Diverge x y) :
    Diverge (z ++ x) (z ++ y) := by
  obtain ⟨q, a, b, s, t, hne, rfl, rfl⟩ := h
  exact ⟨z ++ q, a, b, s, t, hne, by simp, by simp⟩

theorem Diverge.append_right {x y : List Entry} (u v : List Entry) (h : Diverge x y) :
    Diverge (x ++ u) (y ++ v) := by
  obtain ⟨q, a, b, s, t, hne, rfl, rfl⟩ := h
  exact ⟨q, a, b, s ++ u, t ++ v, hne, by simp, by simp⟩

theorem Diverge.ne {x y : List Entry} (h : Diverge x y) : x ≠ y := by
  obtain ⟨q, a, b, s, t, hne, rfl, rfl⟩ := h
  intro heq
  exact hne (List.cons.inj (List.append_cancel_left heq)).1

theorem Ledger.open_eq (l : Ledger) (d : Trouble) (i : Invocation) :
    l.open d i = ⟨l.asked + 1, d.stacked (l.asked + 1) i l.opened,
      l.journal ++ (d.opening (l.asked + 1) i).2⟩ := by
  rw [Ledger.open, Trouble.stacked]
  rcases d.opening (l.asked + 1) i with ⟨_ | f, es⟩ <;> rfl

theorem Ledger.close_eq (l : Ledger) (failure : Option Fault) :
    l.close failure =
      ⟨l.asked, l.opened.tail, l.journal ++ l.opened.head?.toList.flatMap fun n => closing n failure⟩ := by
  rw [Ledger.close]
  rcases l with ⟨asked, _ | ⟨n, rest⟩, journal⟩ <;> simp [write]

theorem Calls.asked_after (calls : Calls d W) (l : Ledger) :
    (calls.after l).asked = l.asked + calls.size := by
  induction calls generalizing l with
  | done => rfl
  | call o arguments inner ending rest hinner hrest =>
    have hasked := hinner (l.open d (o.invocation arguments))
    rw [Ledger.open_eq] at hasked
    rw [after, hrest, size, Ledger.close_eq, Ledger.open_eq]
    show (inner.after _).asked + rest.size = _
    rw [hasked]
    show l.asked + 1 + inner.size + rest.size = _
    omega

/-- A call is followed by the next one with what it has left. -/
theorem Calls.after_call (o : Operation d W) (arguments : List (String × Value)) (inner : Calls d W)
    (ending : Ending) (rest : Calls d W) (l : Ledger) :
    let started := inner.after (l.open d (o.invocation arguments))
    (Calls.call o arguments inner ending rest).after l = rest.after
      ⟨l.asked + 1 + inner.size, started.opened.tail, started.journal
        ++ (started.opened.head?.toList.flatMap fun n => closing n (failure? ending.val))
        ++ [.returned started.opened.tail]⟩ := by
  have hasked := inner.asked_after (l.open d (o.invocation arguments))
  have hopen : (l.open d (o.invocation arguments)).asked = l.asked + 1 := by rw [Ledger.open_eq]
  rw [after, Ledger.close_eq, ← hopen, ← hasked]
  rfl

/-- Each call that gets no span takes one from the stack. -/
theorem Calls.opened_after (calls : Calls d W) (l : Ledger) :
    (calls.after l).opened = l.opened.drop (calls.spanless l.asked) := by
  induction calls generalizing l with
  | done => rfl
  | call o arguments inner ending rest hinner hrest =>
    have hopened := hinner (l.open d (o.invocation arguments))
    rw [Ledger.open_eq] at hopened
    rw [after_call, hrest, spanless, Ledger.open_eq]
    show ((inner.after _).opened.tail).drop _ = _
    rw [hopened, Trouble.stacked, List.tail_drop, List.drop_drop]
    cases (d.opening (l.asked + 1) (o.invocation arguments)).1 with
    | none =>
      show ((l.asked + 1) :: l.opened).drop (inner.spanless (l.asked + 1) + 1 + _) = _
      rw [Nat.add_right_comm, List.drop_succ_cons]
      simp
    | some f =>
      show l.opened.drop (inner.spanless (l.asked + 1) + 1 + _) = _
      rw [Nat.add_comm _ 1]
      rfl

/-- A call that has a span on the stack ends it. So does, by ending none, a call that has none, if no span
is open. -/
theorem Trouble.ends_own {opened : List Nat} (failure : Option Fault)
    (h : (d.opening n i).1 = none ∨ opened = []) :
    ((d.stacked n i opened).head?.toList.flatMap fun m => closing m failure) = d.ownEnd n i failure ∧
      (d.stacked n i opened).tail = opened := by
  rw [stacked, ownEnd]
  cases hown : (d.opening n i).1 with
  | none => exact ⟨by simp, rfl⟩
  | some f =>
    obtain rfl := h.resolve_left (by simp [hown])
    exact ⟨rfl, rfl⟩

/-- A call that has none ends another one, if one is open. -/
theorem Trouble.ends_other {opened : List Nat} {f : Fault} (failure : Option Fault)
    (h : (d.opening n i).1 = some f) (hopened : opened ≠ []) (es more : List Entry) :
    Diverge (((d.stacked n i opened).head?.toList.flatMap fun m => closing m failure) ++ es)
      (d.ownEnd n i failure ++ .returned opened :: more) := by
  obtain ⟨m, rest, rfl⟩ := List.exists_cons_of_ne_nil hopened
  rw [stacked, ownEnd, h]
  refine ⟨[], .labelled m "success" (.bool failure.isNone), .returned (m :: rest),
    (closing m failure).tail ++ es, more, by simp, ?_, rfl⟩
  show (closing m failure ++ []) ++ es = _
  rw [List.append_nil]
  rfl

/-- What is written down is the story of the calls exactly if they are upright. -/
theorem Calls.journal_after (calls : Calls d W) (l : Ledger) :
    ∃ es, (calls.after l).journal = l.journal ++ es ∧
      (calls.Upright l.asked l.opened ∧ es = calls.story l.asked l.opened ∧
        (calls.after l).opened = l.opened ∨
        ¬ calls.Upright l.asked l.opened ∧ Diverge es (calls.story l.asked l.opened)) := by
  induction calls generalizing l with
  | done => exact ⟨[], (List.append_nil _).symm, .inl ⟨trivial, rfl, rfl⟩⟩
  | call o arguments inner ending rest hinner hrest =>
    rw [after_call]
    obtain ⟨es, hes, hstory⟩ := hinner (l.open d (o.invocation arguments))
    generalize inner.after (l.open d (o.invocation arguments)) = left at hes hstory ⊢
    rw [Ledger.open_eq] at hes hstory
    dsimp only at hes hstory ⊢
    generalize hlast : (left.opened.head?.toList.flatMap fun n => closing n (failure? ending.val)) = last
    obtain ⟨more, hmore, hrest⟩ := hrest ⟨l.asked + 1 + inner.size, left.opened.tail,
      left.journal ++ last ++ [.returned left.opened.tail]⟩
    refine ⟨(d.opening (l.asked + 1) (o.invocation arguments)).2 ++
      (es ++ (last ++ (.returned left.opened.tail :: more))), by rw [hmore, hes]; simp, ?_⟩
    rw [story]
    rcases hstory with ⟨hupright, rfl, hopened⟩ | ⟨hnot, hdiverge⟩
    · -- the calls in it have left the stack as it was when the call had started
      rw [hopened] at hlast hmore hrest ⊢
      by_cases hown : (d.opening (l.asked + 1) (o.invocation arguments)).1 = none ∨ l.opened = []
      · obtain ⟨hend, htail⟩ := Trouble.ends_own (failure? ending.val) hown
        rw [hend] at hlast
        subst hlast
        simp only [htail] at hmore hrest ⊢
        rcases hrest with ⟨hrest, rfl, hleft⟩ | ⟨hrest, hdiverge⟩
        · exact .inl ⟨⟨hown, hupright, hrest⟩, rfl, hleft⟩
        · refine .inr ⟨fun h => hrest h.2.2, .append_left _ (.append_left _ (.append_left _ ?_))⟩
          exact hdiverge.append_left [.returned l.opened]
      · -- the call has no span, and ends the one of a caller
        obtain ⟨hnone, hne⟩ := not_or.mp hown
        obtain ⟨f, hf⟩ := Option.ne_none_iff_exists'.mp hnone
        refine .inr ⟨fun h => hown h.1, .append_left _ (.append_left _ ?_)⟩
        rw [← hlast]
        exact Trouble.ends_other _ hf hne _ _
    · -- it is over with the story before the call ends
      exact .inr ⟨fun h => hnot h.2.1, (hdiverge.append_right _ _).append_left _⟩

/-! ### Each span once -/

/-- The span that an entry ends. -/
def Entry.end? : Entry → Option Nat
  | .ended n => some n
  | _ => none

/-- The spans that calls put on the stack. -/
def Calls.spans : Calls d W → Nat → List Nat
  | .done, _ => []
  | .call o arguments inner _ rest, asked =>
    d.stacked (asked + 1) (o.invocation arguments) []
      ++ (inner.spans (asked + 1) ++ rest.spans (asked + 1 + inner.size))

theorem Trouble.end?_described (labels : List (String × Value)) :
    (d.described n labels).2.filterMap Entry.end? = [] := by
  induction labels with
  | nil => rfl
  | cons a labels ih =>
    rw [described]
    cases d.ofLabel n a.1 with
    | some f => rfl
    | none => exact ih

theorem Trouble.end?_opening : (d.opening n i).2.filterMap Entry.end? = [] := by
  rw [opening]
  cases d.ofStart n with
  | some f => rfl
  | none => exact d.end?_described _

theorem Trouble.end?_ownEnd (failure : Option Fault) :
    (d.ownEnd n i failure).filterMap Entry.end? = d.stacked n i [] := by
  rw [ownEnd, stacked]
  cases (d.opening n i).1 with
  | some f => rfl
  | none => cases failure <;> rfl

/-- In the story of calls each span that was put on the stack is ended once. -/
theorem Calls.ended_story (calls : Calls d W) (asked : Nat) (opened : List Nat) :
    ((calls.story asked opened).filterMap Entry.end?).Perm (calls.spans asked) := by
  induction calls generalizing asked opened with
  | done => exact .refl []
  | call o arguments inner ending rest hinner hrest =>
    rw [story, spans]
    simp only [List.filterMap_append, Trouble.end?_opening, Trouble.end?_ownEnd, List.nil_append]
    refine ((hinner _ _).append (.append_left _ (hrest _ _))).trans ?_
    rw [← List.append_assoc, ← List.append_assoc]
    exact List.perm_append_comm.append_right _

theorem Calls.mem_spans (calls : Calls d W) {asked m : Nat} (h : m ∈ calls.spans asked) :
    asked < m ∧ m ≤ asked + calls.size := by
  induction calls generalizing asked with
  | done => cases h
  | call o arguments inner ending rest hinner hrest =>
    rw [spans, Trouble.stacked] at h
    rw [size]
    rcases List.mem_append.mp h with h | h
    · cases hown : (d.opening (asked + 1) (o.invocation arguments)).1 with
      | some f => simp [hown] at h
      | none =>
        obtain rfl : m = asked + 1 := by simpa [hown] using h
        omega
    · rcases List.mem_append.mp h with h | h
      · have := hinner h; omega
      · have := hrest h; omega

theorem Calls.nodup_spans (calls : Calls d W) (asked : Nat) : (calls.spans asked).Nodup := by
  induction calls generalizing asked with
  | done => exact List.nodup_nil
  | call o arguments inner ending rest hinner hrest =>
    rw [spans, Trouble.stacked]
    have hnested : (inner.spans (asked + 1) ++ rest.spans (asked + 1 + inner.size)).Nodup :=
      List.nodup_append.mpr ⟨hinner _, hrest _, fun m hm k hk => by
        have := inner.mem_spans hm; have := rest.mem_spans hk; omega⟩
    cases (d.opening (asked + 1) (o.invocation arguments)).1 with
    | some f => exact hnested
    | none =>
      show ((asked + 1) :: (inner.spans (asked + 1) ++ rest.spans (asked + 1 + inner.size))).Nodup
      refine List.nodup_cons.mpr ⟨fun h => ?_, hnested⟩
      rcases List.mem_append.mp h with h | h
      · have := inner.mem_spans h; omega
      · have := rest.mem_spans h; omega

/-- What calls write down is a story in which each span on the stack is ended once, by the end of the call
that put it there and with the success and the category of that call, in which a call without a span ends
none, and in which every call leaves the stack as it found it, exactly if every call that starts while a
span is open gets a span. In any case each call without a span takes one from the stack. -/
theorem ends_own_spans_iff (calls : Calls d W) (l : Ledger) (w : W) :
    (∃ written, (calls.play.run (l, w)).2.1.journal = l.journal ++ written ∧
      (written = calls.story l.asked l.opened ↔ calls.Upright l.asked l.opened)) ∧
    ((calls.story l.asked l.opened).filterMap Entry.end?).Perm (calls.spans l.asked) ∧
    (calls.spans l.asked).Nodup ∧
    (calls.play.run (l, w)).2.1.opened = l.opened.drop (calls.spanless l.asked) := by
  rw [calls.play_ledger]
  obtain ⟨es, hes, hstory⟩ := calls.journal_after l
  refine ⟨⟨es, hes, ?_⟩, calls.ended_story _ _, calls.nodup_spans _, calls.opened_after l⟩
  rcases hstory with ⟨hupright, heq, -⟩ | ⟨hnot, hdiverge⟩
  · exact iff_of_true heq hupright
  · exact iff_of_false hdiverge.ne hnot

/-- A tracer that cannot start its second span. -/
def secondless : Trouble where
  ofStart n := if n = 2 then some (.foreign ⟨"RuntimeError", "no span 2", .unknown⟩) else none
  ofLabel _ _ := none
  calm_ofStart h := by
    split at h
    · cases h; rfl
    · cases h
  calm_ofLabel h := by cases h
  ofLabel_end _ := rfl

/-- An operation without other concerns. -/
def plain : Operation secondless Unit where
  component := "c"
  name := "operation"
  identifying := []
  clock := pure .zero
  aloof_invocation := by simp
  aloof_completion := by simp
  aloof_record := by simp
  aloof_clock _ := rfl

/-- A call that fails. -/
def inner : Calls secondless Unit :=
  .call plain [] .done ⟨.error (.store (.final .notFound "gone" .null)), by simp [Fault.isInterrupt]⟩ .done

/-- A call that returns, after a call in it has failed. -/
def outer : Calls secondless Unit := .call plain [] inner ⟨.ok .null, by simp⟩ .done

/-- The span of the outer call is ended by the inner one, and says that the outer call failed since nothing
was found. -/
theorem inner_ends_outer :
    (outer.play.run ({}, ())).2.1.journal =
      [.started 1 "public_api.c.operation", .labelled 1 "component_id" (.text "c"),
        .labelled 1 "api_name" (.text "operation"), .labelled 1 "success" (.bool false),
        .labelled 1 "error_category" (.text "not_found"), .failed 1, .ended 1, .returned [], .returned []] ∧
      (outer.play.run ({}, ())).2.1.journal ≠ outer.story 0 [] := by
  have hjournal : (outer.play.run ({}, ())).2.1.journal = _ := congrArg Ledger.journal (outer.play_ledger _)
  rw [hjournal]
  refine ⟨rfl, fun h => ?_⟩
  -- after the inner call has started, its return would be next
  have hfourth : some (Entry.labelled 1 "success" (.bool false)) = some (.returned [1]) :=
    congrArg (fun es : List Entry => es[3]?) h
  cases hfourth

end LakeStore.Tracing
