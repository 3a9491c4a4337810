import LakeStore.Proofs.Observation

/-!
Observed calls are as they are without observers.

An instrumented call makes the call once, in the context of its caller, and has its outcome. All concerns
are told of the start before and of the end after it, once each and in order, whichever of them fail; each
failure is noted once. Only a request to stop is passed on at once, so that no concern is told of the end.
-/

namespace LakeStore.Watching

/-! ### What is seen of a call -/

/-- What is seen of concerns and of the log: which concern was told of a start or an end, with what it
failed with, if it failed; and records with everything that was bound when they were written. -/
inductive Event where
  | told (concern : Nat) (i : Invocation) (failure : Option Fault)
  | toldEnd (concern : Nat) (c : Completion) (failure : Option Fault)
  | logged (level : Log.Level) (message : String) (bound : Log.Context)

/-- The context for log records, what was seen, and the rest of the world. -/
structure World (W : Type) where
  scope : Log.Context.Scope := {}
  events : List Event := []
  rest : W

/-- Computations that may change all of this. -/
abbrev Act (W : Type) := StateM (World W)

/-- A concern, of a number and a name, as it acts on the rest of the world. It may read the context and
fail, though with no request to stop. -/
structure Watcher (W : Type) where
  number : Nat
  name : String
  atStart : Invocation → Log.Context → W → Except Fault Unit × W
  atEnd : Completion → Log.Context → W → Except Fault Unit × W
  calm_atStart : ∀ {i context w f}, (atStart i context w).1 = .error f → f.isInterrupt = false
  calm_atEnd : ∀ {c context w f}, (atEnd c context w).1 = .error f → f.isInterrupt = false

variable {W α : Type}

/-- A hook that acts on the rest of the world, of which it is seen that it was run. -/
def hook (mark : Option Fault → Event) (act : Log.Context → W → Except Fault Unit × W) :
    ExceptT Fault (Act W) Unit :=
  ExceptT.mk (modifyGet fun s =>
    let (r, rest) := act s.scope.current s.rest
    (r, { s with events := s.events ++ [mark (failure? r)], rest }))

/-- A watcher as a concern. -/
def Watcher.concern (c : Watcher W) : Concern (Act W) where
  name := c.name
  onInvocation i := hook (.told c.number i) (c.atStart i)
  onCompletion e := hook (.toldEnd c.number e) (c.atEnd e)

/-- A logger: what writing a record does to the context and to the rest of the world. -/
abbrev Logger (W : Type) := Log.Level → String → Log.Context → W → Log.Context × W

/-- Writes a record, with its fields bound for the moment. -/
def Logger.recorder (logger : Logger W) : Recorder (Act W) := fun level message fields =>
  modify fun s =>
    let block := s.scope.enter fields
    let (current, rest) := logger level message block.current s.rest
    { scope := { block with current }.leave
      events := s.events ++ [.logged level message block.current]
      rest }

/-- A clock that belongs to the rest of the world. -/
def clocked (clock : W → Binary64 × W) : Act W Binary64 := modifyGet fun s =>
  let (reading, rest) := clock s.rest
  (reading, { s with rest })

/-! ### The rounds of hooks -/

section Rounds

variable {logger : Option (Logger W)} {x : Instrument (Act W)} {watchers : List (Watcher W)} {i : Invocation}
  {stage : String} {s : World W} {mark : Nat → Option Fault → Event}
  {run : Concern (Act W) → ExceptT Fault (Act W) Unit} {act : Watcher W → Log.Context → W →
    Except Fault Unit × W}

/-- A record of an observed call, if there is a logger. -/
def recorded (logger : Option (Logger W)) (context : Log.Context) (level : Log.Level) (message : String)
    (fields : List (String × Value)) : List Event :=
  match logger with
  | some _ => [.logged level message (context.bind fields)]
  | none => []

/-- What is seen of one hook: that it was run, and a warning if it failed. -/
def seen (logger : Option (Logger W)) (context : Log.Context) (stage : String) (i : Invocation)
    (mark : Nat → Option Fault → Event) (c : Watcher W) (failure : Option Fault) : List Event :=
  mark c.number failure ::
    failure.toList.flatMap fun f =>
      recorded logger context .warning "blob operation instrumentation failed"
        (Instrument.failureFields i stage c.name f)

/-- What is seen of a round of hooks, each of which failed with this if it failed. -/
def round (logger : Option (Logger W)) (context : Log.Context) (stage : String) (i : Invocation)
    (mark : Nat → Option Fault → Event) (watchers : List (Watcher W)) (failures : List (Option Fault)) :
    List Event :=
  (watchers.zip failures).flatMap fun (c, failure) => seen logger context stage i mark c failure

theorem recorder_run (logger : Logger W) (level : Log.Level) (message : String)
    (fields : List (String × Value)) (s : World W) :
    ∃ w, (logger.recorder level message fields).run s =
      ((), { s with events := s.events ++ [.logged level message (s.scope.current.bind fields)],
                    rest := w }) :=
  ⟨_, rfl⟩

theorem hook_run (mark : Option Fault → Event) (act : Log.Context → W → Except Fault Unit × W) (s : World W) :
    (hook mark act).run.run s =
      ((act s.scope.current s.rest).1,
        { s with events := s.events ++ [mark (failure? (act s.scope.current s.rest).1)]
                 rest := (act s.scope.current s.rest).2 }) := rfl

theorem note_run (hrecord : x.record = logger.map Logger.recorder) (stage : String) (i : Invocation)
    (concern : String) (f : Fault) (s : World W) :
    ∃ w, (x.note stage i concern f).run s =
      ((), { s with events := s.events ++ recorded logger s.scope.current .warning
                      "blob operation instrumentation failed" (Instrument.failureFields i stage concern f)
                    rest := w }) := by
  rw [Instrument.note, hrecord]
  cases logger with
  | none => exact ⟨s.rest, by rw [recorded, List.append_nil]; rfl⟩
  | some l => exact recorder_run l _ _ _ s

/-- One hook is run once, and noted once if it fails. -/
theorem told_watcher (hrecord : x.record = logger.map Logger.recorder) (stage : String) (i : Invocation)
    (s : World W) (c : Watcher W) (hrun : run c.concern = hook (mark c.number) (act c)) :
    ∃ failure w, x.told stage i run s c.concern =
      { s with events := s.events ++ seen logger s.scope.current stage i mark c failure, rest := w } := by
  have hhook := hook_run (mark c.number) (act c) s
  rw [← hrun] at hhook
  generalize act c s.scope.current s.rest = ended at hhook
  rcases ended with ⟨f | ⟨⟩, w⟩ <;> rw [Instrument.told, hhook]
  · obtain ⟨w', hnote⟩ := note_run hrecord stage i c.name f
      { s with events := s.events ++ [mark c.number (some f)], rest := w }
    refine ⟨some f, w', ?_⟩
    show ((x.note stage i c.name f).run _).2 = _
    rw [show failure? (.error f : Except Fault Unit) = some f from rfl, hnote, seen]
    simp
  · exact ⟨none, w, rfl⟩

/-- In a round every hook is run once, in order, whichever of them fail. -/
theorem foldl_watchers (hrecord : x.record = logger.map Logger.recorder) (watchers : List (Watcher W))
    (stage : String) (i : Invocation) (s : World W)
    (hrun : ∀ c : Watcher W, run c.concern = hook (mark c.number) (act c)) :
    ∃ failures w, failures.length = watchers.length ∧
      (watchers.map Watcher.concern).foldl (x.told stage i run) s =
        { s with events := s.events ++ round logger s.scope.current stage i mark watchers failures,
                 rest := w } := by
  induction watchers generalizing s with
  | nil => exact ⟨[], s.rest, rfl, by simp [round]⟩
  | cons c watchers ih =>
    obtain ⟨failure, w, htold⟩ := told_watcher hrecord stage i s c (hrun c)
    obtain ⟨failures, w', hlength, hfold⟩ := ih
      { s with events := s.events ++ seen logger s.scope.current stage i mark c failure, rest := w }
    refine ⟨failure :: failures, w', by rw [List.length_cons, List.length_cons, hlength], ?_⟩
    rw [List.map_cons, List.foldl_cons, htold, hfold]
    simp [round]

end Rounds

/-! ### The whole call -/

section Observed

variable {logger : Option (Logger W)} {watchers : List (Watcher W)} {clock : W → Binary64 × W}
  {i : Invocation} {s : World W}

/-- The instrument with some watchers, and with a concern for records if there is a logger. -/
def instrument (logger : Option (Logger W)) (watchers : List (Watcher W)) (clock : W → Binary64 × W) :
    Instrument (Act W) :=
  .made (logger.map Logger.recorder) (watchers.map Watcher.concern) (clocked clock)

theorem patient : (instrument logger watchers clock).Patient := by
  refine Instrument.patient_made (fun c hc i s f hf => ?_) fun c hc e s f hf => ?_ <;>
    obtain ⟨c, -, rfl⟩ := List.mem_map.mp hc
  · exact c.calm_atStart hf
  · exact c.calm_atEnd hf

/-- A round of all concerns: the record comes first, and then each watcher is told. -/
theorem foldl_concerns (act : Watcher W → Log.Context → W → Except Fault Unit × W) {stage : String}
    {mark : Nat → Option Fault → Event} {run : Concern (Act W) → ExceptT Fault (Act W) Unit}
    {level : Log.Level} {message : String} {fields : List (String × Value)}
    (hlogging : ∀ record, run (Concern.logging record) = ExceptT.lift (record level message fields))
    (hrun : ∀ c : Watcher W, run c.concern = hook (mark c.number) (act c)) (s : World W) :
    ∃ failures w, failures.length = watchers.length ∧
      (instrument logger watchers clock).concerns.foldl
        ((instrument logger watchers clock).told stage i run) s =
        { s with events := s.events ++ (recorded logger s.scope.current level message fields
                   ++ round logger s.scope.current stage i mark watchers failures)
                 rest := w } := by
  have hrecord : (instrument logger watchers clock).record = logger.map Logger.recorder := rfl
  have hround (t : World W) := foldl_watchers hrecord watchers stage i t hrun
  cases logger with
  | none => exact hround s
  | some l =>
    obtain ⟨w, hrecord⟩ := recorder_run l level message fields s
    have htold : (instrument (some l) watchers clock).told stage i run s (Concern.logging l.recorder) =
        { s with events := s.events ++ [.logged level message (s.scope.current.bind fields)],
                 rest := w } := by
      rw [Instrument.told, hlogging, run_run_lift, hrecord]
    obtain ⟨failures, w', hlength, hfold⟩ := hround
      { s with events := s.events ++ [.logged level message (s.scope.current.bind fields)], rest := w }
    refine ⟨failures, w', hlength, ?_⟩
    show (watchers.map Watcher.concern).foldl _ (Instrument.told _ _ _ _ _ (Concern.logging l.recorder)) = _
    rw [htold, hfold]
    simp [recorded]

/-- What is seen before the call. -/
def before (logger : Option (Logger W)) (watchers : List (Watcher W)) (context : Log.Context) (i : Invocation)
    (failures : List (Option Fault)) : List Event :=
  recorded logger context .debug "blob operation started"
    (Entries.put "event" (.text "public_api_invocation") i.fields)
    ++ round logger context "on_invocation" i (fun n => .told n i) watchers failures

/-- What is seen after the call. -/
def afterwards (logger : Option (Logger W)) (watchers : List (Watcher W)) (context : Log.Context)
    (c : Completion) (failures : List (Option Fault)) : List Event :=
  (if c.isSuccess then recorded logger context .info "blob operation completed" c.fields
    else recorded logger context .warning "blob operation failed" c.fields)
    ++ round logger context "on_completion" c.invocation (fun n => .toldEnd n c) watchers failures

theorem opening_eq (logger : Option (Logger W)) (watchers : List (Watcher W)) (clock : W → Binary64 × W)
    (i : Invocation) (s : World W) :
    ∃ failures w, failures.length = watchers.length ∧ (instrument logger watchers clock).opening i s =
      { s with events := s.events ++ before logger watchers s.scope.current i failures, rest := w } :=
  foldl_concerns (fun c => c.atStart i) (fun _ => rfl) (fun _ => rfl) s

theorem closing_eq (logger : Option (Logger W)) (watchers : List (Watcher W)) (clock : W → Binary64 × W)
    (c : Completion) (s : World W) :
    ∃ failures w, failures.length = watchers.length ∧ (instrument logger watchers clock).closing c s =
      { s with events := s.events ++ afterwards logger watchers s.scope.current c failures, rest := w } := by
  rw [Instrument.closing]
  cases hc : c.isSuccess <;> simp only [afterwards, hc, if_true, Bool.false_eq_true, if_false]
  · exact foldl_concerns (fun w => w.atEnd c) (fun _ => by simp [Concern.logging, hc]; rfl) (fun _ => rfl) s
  · exact foldl_concerns (fun w => w.atEnd c) (fun _ => by simp [Concern.logging, hc]; rfl) (fun _ => rfl) s

/-- An instrumented call is the call itself, made once and with its arguments in the context of its caller.
Before it, all concerns have been told of the start, once each and in order; after it, unless it was asked
to stop, they are told of the end in the same way, as of a success exactly if the call returned. Each
failure of a hook is noted once. The result is that of the call, and so is the context that is left. -/
theorem observes_call {x : Instrument (Act W)}
    (hx : Instrument.make (logger.map Logger.recorder) (watchers.map Watcher.concern) (clocked clock) = .ok x)
    {α : Type} (f : List (String × Value) → ExceptT Fault (Act W) α) (arguments : List (String × Value))
    (component operation : String) (identifying : List String) (s : World W) :
    let i : Invocation := ⟨component, operation, Invocation.referencesOf identifying arguments⟩
    ∃ failures w, failures.length = watchers.length ∧
      let start : World W :=
        { s with events := s.events ++ before logger watchers s.scope.current i failures, rest := w }
      let (r, left) := (f arguments).run.run start
      ((∃ fault, r = .error fault ∧ fault.isInterrupt = true) →
        (x.observe i (f arguments)).run.run s = (r, left)) ∧
      ((∀ fault, r = .error fault → fault.isInterrupt = false) →
        ∃ duration failures' w', failures'.length = watchers.length ∧
          let c : Completion := ⟨i, duration, failure? r⟩
          (x.observe i (f arguments)).run.run s =
            (r, { left with events := left.events ++ afterwards logger watchers left.scope.current c failures'
                            rest := w' }) ∧
          (c.isSuccess = true ↔ ∃ v, r = .ok v) ∧
          ∀ fault, r = .error fault → c.categories = [fault.category.name] ∧ c.errno = some fault.errno) := by
  obtain rfl := Instrument.eq_made hx
  intro i
  have hpatient : (instrument logger watchers clock).Patient := patient
  obtain ⟨failures, w, hlength, hopening⟩ := opening_eq logger watchers clock i s
  have hbegun : ((instrument logger watchers clock).begun i s).2 =
      { s with events := s.events ++ before logger watchers s.scope.current i failures,
               rest := (clock w).2 } := by
    rw [Instrument.begun, hopening]
    rfl
  refine ⟨failures, (clock w).2, hlength, ?_⟩
  dsimp only
  rw [← hbegun]
  rcases hcall : (f arguments).run.run ((instrument logger watchers clock).begun i s).2 with ⟨r, left⟩
  refine ⟨?_, fun hr => ?_⟩
  · rintro ⟨fault, rfl, hfault⟩
    exact hpatient.observe_run_interrupted hcall hfault
  · have hrun := hpatient.observe_run hcall hr
    generalize (instrument logger watchers clock).begun i s = begun at hrun
    obtain ⟨failures', w', hlength', hclosing⟩ := closing_eq logger watchers clock
      ((instrument logger watchers clock).ended i begun.1 (failure? r) left)
        { left with rest := (clock left.rest).2 }
    refine ⟨_, failures', w', hlength', hrun.trans (congrArg (Prod.mk r) hclosing), ?_, ?_⟩
    · cases r <;> simp [Completion.isSuccess, failure?]
    · rintro fault rfl
      exact ⟨rfl, rfl⟩

/-- A watcher that never fails. -/
def steady : Watcher Unit where
  number := 0
  name := "Steady"
  atStart _ _ w := (.ok (), w)
  atEnd _ _ w := (.ok (), w)
  calm_atStart h := by cases h
  calm_atEnd h := by cases h

/-- A watcher that fails each time. -/
def faulty : Watcher Unit where
  number := 1
  name := "Faulty"
  atStart _ _ w := (.error (.foreign ⟨"RuntimeError", "no", .unknown⟩), w)
  atEnd _ _ w := (.error (.foreign ⟨"RuntimeError", "no", .unknown⟩), w)
  calm_atStart h := by cases h; rfl
  calm_atEnd h := by cases h; rfl

/-- A task that binds its arguments and then finds nothing. -/
def bindsAndFails (arguments : List (String × Value)) : ExceptT Fault (Act Unit) Unit := do
  modify fun s => { s with scope := s.scope.bind arguments }
  throw (.store (.final .notFound "gone" (.text "k")))

/-- It fails in the same way under two watchers, of which one fails, and leaves its arguments bound. -/
theorem observes_call_failing :
    ∃ x, Instrument.make ((some fun _ _ context w => (context, w) : Option (Logger Unit)).map Logger.recorder)
        ([faulty, steady].map Watcher.concern) (clocked fun w => (.zero, w)) = .ok x ∧
      ((x.observe ⟨"c", "operation", [("key", "k")]⟩ (bindsAndFails [("key", .text "k")])).run.run
        { rest := () }).1 =
        .error (.store (.final .notFound "gone" (.text "k"))) ∧
      ((x.observe ⟨"c", "operation", [("key", "k")]⟩ (bindsAndFails [("key", .text "k")])).run.run
        { rest := () }).2.scope.current = [("key", "k")] := by
  have hmake :
      Instrument.make ((some fun _ _ context w => (context, w) : Option (Logger Unit)).map Logger.recorder)
    ([faulty, steady].map Watcher.concern) (clocked fun w => (.zero, w)) = .ok _ := rfl
  refine ⟨_, hmake, ?_⟩
  obtain ⟨failures, w, -, -, hends⟩ :=
    observes_call hmake bindsAndFails [("key", .text "k")] "c" "operation" ["key"] { rest := () }
  obtain ⟨duration, failures', w', -, hrun, -⟩ := hends fun fault hfault => by cases hfault; rfl
  exact ⟨congrArg Prod.fst hrun, congrArg (fun r => r.2.scope.current) hrun⟩

/-- A watcher is not told of the end of a call that was asked to stop. -/
theorem stop_untold :
    ∃ x, Instrument.make none ([steady].map Watcher.concern) (clocked fun w => (.zero, w)) = .ok x ∧
      let i : Invocation := ⟨"c", "operation", []⟩
      let stop : Fault := .foreign ⟨"KeyboardInterrupt", "", .interrupt⟩
      (x.observe i (throw stop : ExceptT Fault (Act Unit) Unit)).run.run { rest := () } =
        (.error stop, { events := [.told 0 i none], rest := () }) :=
  ⟨_, rfl, rfl⟩

end Observed

end LakeStore.Watching
