import LakeStore.Log.Setup
import LakeStore.Proofs.Reading

/-!
Setting logging up again and again.

Every call that sets logging up replaces the place where records go, and only then looks its level up. So a
call whose level is not known fails with its place installed, and with the threshold and the context from
before. In a sequence of calls the failed ones have no other trace than the place, and where records go is
up to the last call that set logging up, whether it failed or not. Settings that were read from a
configuration never fail.
-/

namespace LakeStore.Log.Setup

/-- A call that changes how logging is set up. -/
inductive Call where
  | configure (settings : Settings)
  | bind (values : List (String × Value))
  | clear (names : List String)

/-- The place that settings ask for. -/
def placeOf (settings : Settings) : Place := .output (if settings.json then .json else .plain)

namespace Call

/-- Whether a call fails. -/
def fails : Call → Bool
  | .configure settings => (threshold? settings.level).isNone
  | .bind _ | .clear _ => false

/-- The place that a call installs, if it installs one. -/
def place? : Call → Option Place
  | .configure settings => some (placeOf settings)
  | .bind _ | .clear _ => none

end Call

/-- The setup that a call leaves, whether it fails or not. -/
def perform (s : Setup) : Call → Setup
  | .configure settings => (s.configure settings).2
  | .bind values => s.bind values
  | .clear names => { s with context := s.context.clear names }

/-- The setup that some calls leave. -/
def performAll (s : Setup) (calls : List Call) : Setup := calls.foldl perform s

/-- Where records go after some calls that found them going to `place`. -/
def lastPlace (place : Place) (calls : List Call) : Place := (calls.filterMap Call.place?).getLast?.getD place

variable {s : Setup} {settings : Settings} {c : Call}

/-! ### One call -/

theorem configure_of_unknown (h : threshold? settings.level = none) :
    s.configure settings = (false, { s with place := placeOf settings }) := by
  simp only [configure, h]; rfl

theorem configure_of_known {threshold : Option Level} (h : threshold? settings.level = some threshold) :
    s.configure settings = (true, ⟨placeOf settings, threshold, s.context.bind
      [("service", bindable settings.service), ("environment", bindable settings.environment)]⟩) := by
  simp only [configure, h]; rfl

theorem configure_fails_iff : (s.configure settings).1 = false ↔ threshold? settings.level = none := by
  cases h : threshold? settings.level with
  | none => rw [configure_of_unknown h]; exact iff_of_true rfl rfl
  | some threshold => rw [configure_of_known h]; exact iff_of_false nofun nofun

/-- A failed call installs its place and does nothing else. -/
theorem perform_of_fails (h : c.fails = true) :
    ∃ place, c.place? = some place ∧ s.perform c = { s with place } := by
  cases c with
  | configure settings =>
    exact ⟨placeOf settings, rfl, congrArg Prod.snd (configure_of_unknown (Option.isNone_iff_eq_none.mp h))⟩
  | bind values | clear names => cases h

/-- The place decides about nothing else that a call does. -/
theorem perform_place (s : Setup) (place : Place) (c : Call) :
    perform { s with place } c = { s.perform c with place := c.place?.getD place } := by
  cases c with
  | configure settings =>
    cases h : threshold? settings.level with
    | none => rw [perform, perform, configure_of_unknown h, configure_of_unknown h]; rfl
    | some threshold => rw [perform, perform, configure_of_known h, configure_of_known h]; rfl
  | bind values | clear names => rfl

/-! ### Many calls -/

theorem lastPlace_cons (place : Place) (c : Call) (calls : List Call) :
    lastPlace place (c :: calls) = lastPlace (c.place?.getD place) calls := by
  rw [lastPlace, lastPlace, List.filterMap_cons]
  cases c.place? with
  | none => rfl
  | some p => rw [List.getLast?_cons]; rfl

theorem performAll_place (s : Setup) (place : Place) (calls : List Call) :
    performAll { s with place } calls = { s.performAll calls with place := lastPlace place calls } := by
  induction calls generalizing s place with
  | nil => rfl
  | cons c calls ih =>
    calc performAll { s with place } (c :: calls)
        = performAll { s.perform c with place := c.place?.getD place } calls :=
          congrArg (performAll · calls) (perform_place s place c)
      _ = { s.performAll (c :: calls) with place := lastPlace (c.place?.getD place) calls } := ih _ _
      _ = { s.performAll (c :: calls) with place := lastPlace place (c :: calls) } := by rw [lastPlace_cons]

/-- Failed calls can be left out, but for the place. -/
theorem performAll_eq_filter (s : Setup) (calls : List Call) :
    s.performAll calls =
      { s.performAll (calls.filter fun c => !c.fails) with place := lastPlace s.place calls } := by
  induction calls generalizing s with
  | nil => rfl
  | cons c calls ih =>
    show (s.perform c).performAll calls = _
    rw [ih]
    cases hfails : c.fails with
    | true =>
      obtain ⟨place, hplace, hperform⟩ := perform_of_fails (s := s) hfails
      rw [hperform, List.filter_cons_of_neg (by simp [hfails]), performAll_place, lastPlace_cons, hplace]; rfl
    | false =>
      have hplace : (s.perform c).place = c.place?.getD s.place :=
        congrArg Setup.place (perform_place s s.place c)
      rw [List.filter_cons_of_pos (by simp [hfails]), lastPlace_cons, hplace]; rfl

theorem known_of_mem_levels {name : String} (h : name ∈ Settings.levels) : threshold? name ≠ none := by
  have hknown : ∀ name ∈ Settings.levels, threshold? name ≠ none := by decide +kernel
  exact hknown name h

/-- Settings that were read from a configuration name a level that is known. -/
theorem known_of_ofEntries {entries : List (String × Value)} (h : Settings.ofEntries entries = .ok settings) :
    threshold? settings.level ≠ none := by
  obtain ⟨_, environment, hservice, -, rfl⟩ := Checked.apply_eq_ok.mp h
  obtain ⟨_, service, hjson, -, rfl⟩ := Checked.apply_eq_ok.mp hservice
  obtain ⟨_, json, happly, -, rfl⟩ := Checked.apply_eq_ok.mp hjson
  obtain ⟨_, level, hmake, hlevel, rfl⟩ := Checked.apply_eq_ok.mp happly
  obtain rfl := Except.ok.inj hmake
  rcases Lax.field_eq_ok hlevel with hdefault | ⟨v, hv⟩
  · obtain rfl := Option.some_inj.mp hdefault
    exact known_of_mem_levels (by decide : "INFO" ∈ Settings.levels)
  · exact known_of_mem_levels (Lax.mem_of_oneOf_eq_ok hv)

/-- A call that fails installs its place and keeps the threshold and what is bound; so it changes nothing
just if the place is of that kind already. The failed calls before it have left no other trace than a place,
either, and settings that were read from a configuration do not fail. -/
theorem failed_configure (s : Setup) (calls : List Call)
    (h : ((s.performAll calls).configure settings).1 = false) :
    ((s.performAll calls).configure settings).2 = { s.performAll calls with place := placeOf settings } ∧
    (((s.performAll calls).configure settings).2 = s.performAll calls ↔
      (s.performAll calls).place = placeOf settings) ∧
    s.performAll calls =
      { s.performAll (calls.filter fun c => !c.fails) with place := lastPlace s.place calls } ∧
    ∀ entries, Settings.ofEntries entries ≠ .ok settings := by
  have hunknown := configure_fails_iff.mp h
  have hkept := congrArg Prod.snd (configure_of_unknown (s := s.performAll calls) hunknown)
  refine ⟨hkept, ?_, performAll_eq_filter s calls, fun entries hread => known_of_ofEntries hread hunknown⟩
  rw [hkept]
  constructor
  · intro hsame
    exact (congrArg Setup.place hsame).symm
  · intro hplace
    rw [← hplace]

/-- Plain lines were asked for, then lines with structure under a level that there is not. -/
def plainCalls : List Call :=
  [.configure { json := false, service := some "lake" }, .bind [("key", .text "k")]]

theorem failed_configure_plain :
    ((({} : Setup).performAll plainCalls).configure { level := "LOUD" }).1 = false ∧
      ((({} : Setup).performAll plainCalls).configure { level := "LOUD" }).2 =
        ⟨.output .json, some .info, [("service", "lake"), ("key", "k")]⟩ := by
  have hfails : ((({} : Setup).performAll plainCalls).configure { level := "LOUD" }).1 = false := by
    decide +kernel
  refine ⟨hfails, (failed_configure {} plainCalls hfails).1.trans ?_⟩
  decide +kernel

/-- A call with a level that there is not turns plain lines into lines with structure. -/
theorem failed_configure_changes_place :
    ((({} : Setup).performAll plainCalls).configure { level := "LOUD" }).1 = false ∧
      ((({} : Setup).performAll plainCalls).configure { level := "LOUD" }).2.place ≠
        (({} : Setup).performAll plainCalls).place := by
  decide +kernel

end LakeStore.Log.Setup
