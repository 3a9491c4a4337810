import LakeStore.Instrument

/-!
Observed calls as changes of a state.

Over a state, a round of hooks is a fold: each concern changes the state in its turn, and so does the note
of its failure. An observed call is the call itself between two such rounds, and has the result of the call.
-/

namespace LakeStore

variable {σ α β : Type} {s : σ}

/-- What a result failed with. -/
def failure? : Except Fault α → Option Fault
  | .ok _ => none
  | .error f => some f

/-- A task goes on with what it returned, and ends with what it failed with. -/
theorem run_run_bind (task : ExceptT Fault (StateM σ) α) (f : α → ExceptT Fault (StateM σ) β) (s : σ) :
    (task >>= f).run.run s =
      match task.run.run s with
      | (.ok v, t) => (f v).run.run t
      | (.error e, t) => (.error e, t) := by
  show ((task.run >>= ExceptT.bindCont f : StateM σ (Except Fault β))).run s = _
  rw [StateT.run_bind]
  rcases task.run.run s with ⟨_ | _, _⟩ <;> rfl

theorem run_run_lift (p : StateM σ α) (s : σ) :
    (ExceptT.lift p : ExceptT Fault (StateM σ) α).run.run s = (.ok (p.run s).1, (p.run s).2) := rfl

namespace Instrument

variable {x : Instrument (StateM σ)} {stage : String} {i : Invocation}
  {hook : Concern (StateM σ) → ExceptT Fault (StateM σ) Unit} {cs : List (Concern (StateM σ))}

/-- A hook that fails, if it fails, with what is no request to stop. -/
def Calm (task : ExceptT Fault (StateM σ) Unit) : Prop :=
  ∀ s f, (task.run.run s).1 = .error f → f.isInterrupt = false

/-- Notes the failure of a hook, if there is a place for it. -/
def note (x : Instrument (StateM σ)) (stage : String) (i : Invocation) (concern : String) (f : Fault) :
    StateM σ Unit :=
  match x.record with
  | some record => record .warning "blob operation instrumentation failed" (failureFields i stage concern f)
  | none => pure ()

/-- The state after one concern was told. -/
def told (x : Instrument (StateM σ)) (stage : String) (i : Invocation)
    (hook : Concern (StateM σ) → ExceptT Fault (StateM σ) Unit) (s : σ) (c : Concern (StateM σ)) : σ :=
  match (hook c).run.run s with
  | (.ok (), t) => t
  | (.error f, t) => ((x.note stage i c.name f).run t).2

/-- A hook that fails is noted, and one that does not is not. -/
theorem told_cases (x : Instrument (StateM σ)) (stage : String) (i : Invocation)
    (hook : Concern (StateM σ) → ExceptT Fault (StateM σ) Unit) (s : σ) (c : Concern (StateM σ)) :
    (∃ t, (hook c).run.run s = (.ok (), t) ∧ x.told stage i hook s c = t) ∨
      ∃ f t, (hook c).run.run s = (.error f, t) ∧
      x.told stage i hook s c = ((x.note stage i c.name f).run t).2 := by
  rw [told]
  rcases (hook c).run.run s with ⟨f | ⟨⟩, t⟩
  · exact .inr ⟨f, t, rfl, rfl⟩
  · exact .inl ⟨t, rfl, rfl⟩

/-- Hooks that ask nobody to stop are all run, in order, and stop nothing. -/
theorem tell_run (x : Instrument (StateM σ)) (stage : String) (i : Invocation) (s : σ)
    (h : ∀ c ∈ cs, Calm (hook c)) :
    (x.tell stage i hook cs).run.run s = (.ok (), cs.foldl (x.told stage i hook) s) := by
  induction cs generalizing s with
  | nil => rfl
  | cons c cs ih =>
    have hrest (t : σ) := ih t fun d hd => h d (List.mem_cons_of_mem c hd)
    rw [tell, List.foldl_cons, ← hrest, run_run_bind, run_run_lift, told]
    rcases hrun : (hook c).run.run s with ⟨f | ⟨⟩, t⟩
    · have hf : f.isInterrupt = false := h c List.mem_cons_self s f (by rw [hrun])
      simp only [hf, Bool.false_eq_true, if_false, note]
      cases x.record <;> rfl
    · rfl

/-- The state after all concerns were told that a call starts. -/
def opening (x : Instrument (StateM σ)) (i : Invocation) (s : σ) : σ :=
  x.concerns.foldl (x.told "on_invocation" i fun c => c.onInvocation i) s

/-- The state after all concerns were told of the end of a call. -/
def closing (x : Instrument (StateM σ)) (c : Completion) (s : σ) : σ :=
  x.concerns.foldl (x.told "on_completion" c.invocation fun concern => concern.onCompletion c) s

/-- The end of a call, by the reading of the clock that it started at. -/
def ended (x : Instrument (StateM σ)) (i : Invocation) (started : Binary64) (failure : Option Fault) (s : σ) :
    Completion :=
  ⟨i, ((x.elapsed started).run s).1, failure⟩

/-- An instrument whose concerns ask nobody to stop. -/
structure Patient (x : Instrument (StateM σ)) : Prop where
  invocation : ∀ c ∈ x.concerns, ∀ i, Calm (c.onInvocation i)
  completion : ∀ c ∈ x.concerns, ∀ e, Calm (c.onCompletion e)

theorem calm_lift (p : StateM σ Unit) :
    Calm (ExceptT.lift p : ExceptT Fault (StateM σ) Unit) := fun _ _ h => by
  rw [run_run_lift] at h
  cases h

/-- The instrument with some concerns, and with one for records in front if there is a place for them. -/
def made (record : Option (Recorder (StateM σ))) (cs : List (Concern (StateM σ)))
    (clock : StateM σ Binary64) : Instrument (StateM σ) :=
  ⟨record.toList.map Concern.logging ++ cs, record, clock⟩

theorem eq_made {record : Option (Recorder (StateM σ))} {clock : StateM σ Binary64}
    (h : make record cs clock = .ok x) : x = made record cs clock := by
  rw [make] at h
  split at h
  · cases h
  · exact (Except.ok.inj h).symm

/-- Records are written without a request to stop, so that this is up to the other concerns. -/
theorem patient_made {record : Option (Recorder (StateM σ))} {clock : StateM σ Binary64}
    (hinvocation : ∀ c ∈ cs, ∀ i, Calm (c.onInvocation i))
    (hcompletion : ∀ c ∈ cs, ∀ e, Calm (c.onCompletion e)) :
    (made record cs clock).Patient where
  invocation c hc i := by
    rcases List.mem_append.mp hc with hc | hc
    · obtain ⟨record, -, rfl⟩ := List.mem_map.mp hc
      exact calm_lift _
    · exact hinvocation c hc i
  completion c hc e := by
    rcases List.mem_append.mp hc with hc | hc
    · obtain ⟨record, -, rfl⟩ := List.mem_map.mp hc
      show Calm (if e.isSuccess then _ else _)
      split <;> exact calm_lift _
    · exact hcompletion c hc e

theorem Patient.complete_run (h : x.Patient) (started : Binary64) (failure : Option Fault) :
    (x.complete i started failure).run.run s =
      (.ok (), x.closing (x.ended i started failure s) ((x.elapsed started).run s).2) := by
  rw [complete, run_run_bind]
  exact tell_run x _ i _ fun c hc => h.completion c hc _

/-- The reading of the clock when a call begins, and the state that the call begins in. -/
def begun (x : Instrument (StateM σ)) (i : Invocation) (s : σ) : Binary64 × σ := x.clock.run (x.opening i s)

theorem Patient.observe_begun (h : x.Patient) (call : ExceptT Fault (StateM σ) α) :
    (x.observe i call).run.run s =
      (do
        match ← ExceptT.lift call.run with
        | .ok a =>
          x.complete i (x.begun i s).1 none
          return a
        | .error f =>
          if !f.isInterrupt then x.complete i (x.begun i s).1 (some f)
          throw f : ExceptT Fault (StateM σ) α).run.run (x.begun i s).2 := by
  have htell := tell_run x "on_invocation" i s fun c hc => h.invocation c hc i
  rw [observe, run_run_bind, htell]
  rfl

/-- A call between two rounds of hooks. Its result is that of the call. -/
theorem Patient.observe_run (h : x.Patient) {call : ExceptT Fault (StateM σ) α} {r : Except Fault α} {t : σ}
    (hcall : call.run.run (x.begun i s).2 = (r, t)) (hr : ∀ f, r = .error f → f.isInterrupt = false) :
    (x.observe i call).run.run s =
      (r, x.closing (x.ended i (x.begun i s).1 (failure? r) t) ((x.elapsed (x.begun i s).1).run t).2) := by
  rw [h.observe_begun, run_run_bind, run_run_lift, hcall]
  rcases r with f | v
  · simp only [hr f rfl, Bool.not_false, if_true]
    rw [run_run_bind, h.complete_run]
    rfl
  · show (x.complete i _ none >>= fun _ => pure v).run.run t = _
    rw [run_run_bind, h.complete_run]
    rfl

/-- A request to stop is no end that concerns are told of. -/
theorem Patient.observe_run_interrupted (h : x.Patient) {call : ExceptT Fault (StateM σ) α}
    {f : Fault} {t : σ} (hcall : call.run.run (x.begun i s).2 = (.error f, t)) (hf : f.isInterrupt = true) :
    (x.observe i call).run.run s = (.error f, t) := by
  rw [h.observe_begun, run_run_bind, run_run_lift, hcall]
  simp only [hf, Bool.not_true, Bool.false_eq_true, if_false]
  rfl

end Instrument

end LakeStore
