import Mathlib.Algebra.GroupWithZero.Nat
import LakeStore.Proofs.Recursion
import LakeStore.Proofs.Turn

/-!
The number of keys that are wanted is only a hint.

A walk is a dialogue that knows of no budget, with a budget kept beside it: after every answer that lists a
directory its entries are counted off, and the record that the budget is used up is written when it comes to
zero. So walks with any two budgets fetch the same paths and end in the same way, and what is left of a
budget is told by the number of all entries that were counted.
-/

namespace LakeStore.Listing

open Dialogue
open Remote (FileStatus)

variable {α β σ : Type}

/-! ### Counting -/

/-- The number of entries that a turn takes off a budget: those of the listing of a directory. A fault takes
nothing, and neither does what names an object. -/
def counted? (x : Turn protocol) : Option Nat :=
  match x.answer with
  | .ok statuses => if x.question ≠ "" ∧ isObject statuses then none else some statuses.length
  | .error _ => none

/-- The numbers of entries of the directories that were listed. -/
def counts (turns : List (Turn protocol)) : List Nat := turns.filterMap counted?

namespace Budget

/-- What is left of a budget after directories with these numbers of entries. -/
def left (budget : Budget) (counts : List Nat) : Budget :=
  budget.map fun n => if counts = [] then n else max 0 (n - counts.sum)

/-- The records that are written on the way: one if there was something to use up, and it was. -/
def notes (budget : Budget) (counts : List Nat) : List Log.Note :=
  match budget with
  | some n => if 0 < n ∧ n ≤ counts.sum then [spentNote] else []
  | none => []

theorem left_nil (budget : Budget) : budget.left [] = budget := by
  cases budget <;> rfl

theorem notes_nil (budget : Budget) : budget.notes [] = [] := by
  cases budget with
  | none => rfl
  | some n => exact if_neg fun h => absurd h.1 (not_lt.mpr h.2)

theorem left_cons (budget : Budget) (n : Nat) (counts : List Nat) :
    budget.left (n :: counts) = (budget.after n).left counts := by
  cases budget with
  | none => rfl
  | some b =>
    simp only [left, after, Option.map_some, List.sum_cons, reduceCtorEq, if_false]
    by_cases h : counts = []
    · simp [h]
    · rw [if_neg h]
      congr 1
      omega

theorem notes_cons (budget : Budget) (n : Nat) (counts : List Nat) :
    budget.notes (n :: counts) =
      (if budget.isSpentBy n then [spentNote] else []) ++ (budget.after n).notes counts := by
  cases budget with
  | none => rfl
  | some b =>
    show (if 0 < b ∧ b ≤ ((n :: counts).sum : Nat) then [spentNote] else []) =
      (if (0 < b && b - n ≤ 0) = true then [spentNote] else []) ++
        if 0 < max 0 (b - n) ∧ max 0 (b - n) ≤ (counts.sum : Nat) then [spentNote] else []
    have hsum : (n :: counts).sum = n + counts.sum := List.sum_cons
    simp only [Bool.and_eq_true, decide_eq_true_iff]
    by_cases hspent : 0 < b ∧ b - n ≤ 0
    · have hall : 0 < b ∧ b ≤ ((n :: counts).sum : Nat) := by omega
      have hrest : ¬ (0 < max 0 (b - n) ∧ max 0 (b - n) ≤ (counts.sum : Nat)) := by omega
      rw [if_pos hspent, if_pos hall, if_neg hrest, List.append_nil]
    · rw [if_neg hspent, List.nil_append]
      exact if_congr (by omega) rfl rfl

/-- Counts what one turn takes off a budget, if it takes anything. -/
def take (budget : Budget) : Option Nat → Dialogue protocol Budget
  | some count => consume (P := protocol) count budget >>= fun p => .done p.2
  | none => .done budget

/-- Using the budget up is noted, and then what is left of it is gone on with. -/
theorem take_some_bind (budget : Budget) (count : Nat) (f : Budget → Dialogue protocol β) :
    budget.take (some count) >>= f =
      if budget.isSpentBy count then .note spentNote (f (budget.after count))
      else f (budget.after count) := by
  rw [take, consume]
  cases budget.isSpentBy count <;> rfl

end Budget

/-! ### A budget beside a dialogue -/

/-- A dialogue with a budget beside it, off which it counts what it is told. No records are written but
those of the budget. -/
def meter (budget : Budget) : Dialogue protocol (Except Fault α) → Dialogue protocol (Except Fault α × Budget)
  | .done r => .done (r, budget)
  | .ask path next => .ask path fun answer =>
    budget.take (counted? ⟨path, answer⟩) >>= fun spent => meter spent (next answer)
  | .note _ next => meter budget next
  | .draw next => .draw fun serial => meter budget (next serial)

theorem meter_bind (budget : Budget) (d : Dialogue protocol (Except Fault α))
    (f : Except Fault α → Dialogue protocol (Except Fault β)) :
    meter budget (d >>= f) = meter budget d >>= fun p => meter p.2 (f p.1) := by
  induction d generalizing budget with
  | done r => rfl
  | ask path next ih =>
    refine congrArg (Dialogue.ask (P := protocol) path) (funext fun answer => ?_)
    show (budget.take _ >>= fun spent => meter spent (next answer >>= f)) =
      budget.take _ >>= (fun spent => meter spent (next answer)) >>= fun p => meter p.2 (f p.1)
    rw [bind_assoc]
    exact congrArg _ (funext fun spent => ih answer spent)
  | note n next ih => exact ih budget
  | draw next ih => exact congrArg Dialogue.draw (funext fun serial => ih serial budget)

/-- A part of a walk that keeps its budget beside a dialogue. -/
def Metered (x : Walk α) : Prop := ∃ d, ∀ budget, x.run.run budget = meter budget d

theorem metered_liftM (r : Except Fault α) : Metered (liftM r : Walk α) :=
  ⟨.done r, fun _ => by cases r <;> rfl⟩

theorem metered_pure (a : α) : Metered (pure a : Walk α) := metered_liftM (.ok a)

theorem metered_throw (fault : Fault) : Metered (throw fault : Walk α) := metered_liftM (.error fault)

theorem metered_bind {x : Walk α} {f : α → Walk β} (hx : Metered x) (hf : ∀ a, Metered (f a)) :
    Metered (x >>= f) := by
  obtain ⟨d, hd⟩ := hx
  choose g hg using hf
  refine ⟨d >>= after g, fun budget => ?_⟩
  rw [run_bind, hd, meter_bind]
  congr 1
  funext p
  rcases p with ⟨fault | a, spent⟩
  · rfl
  · exact hg a spent

/-- A part of a walk whose fault is looked at, too. -/
theorem metered_attempt {x : Walk α} {f : Except Fault α → Walk β} (hx : Metered x)
    (hf : ∀ r, Metered (f r)) : Metered (ExceptT.lift x.run >>= f) := by
  obtain ⟨d, hd⟩ := hx
  choose g hg using hf
  refine ⟨d >>= g, fun budget => ?_⟩
  rw [run_attempt_bind, hd, meter_bind]
  congr 1
  funext p
  exact hg p.1 p.2

/-- A path is asked for, and then its entries are counted off if it is a directory. -/
theorem metered_expand (recursive : Bool) (path : String) : Metered (expand recursive path) := by
  refine ⟨.ask path fun answer => .done (answer >>= expanded recursive path), fun budget => ?_⟩
  refine congrArg (Dialogue.ask (P := protocol) path) (funext fun answer => ?_)
  rcases answer with fault | statuses
  · rfl
  show (if path ≠ "" ∧ isObject statuses = true then _ else _ : Walk (List Row × List Visit)).run.run budget =
    budget.take (if path ≠ "" ∧ isObject statuses = true then none else some statuses.length) >>= fun spent =>
      .done (expanded recursive path statuses, spent)
  simp only [expanded]
  split
  · split
    · rfl
    · show (statuses.mapM (liftM ∘ itemRow path) : Walk (List Row)).run.run budget >>= _ = _
      rw [run_mapM_itemRow]
      cases statuses.mapM (itemRow path) <;> rfl
  · show (liftM (Budget.consume (P := protocol) statuses.length) >>= fun _ => _ : Walk _).run.run budget = _
    rw [run_bind, Budget.take, bind_assoc]
    exact bind_assoc _ _ _

theorem metered_visit {recursive : Bool} {enter : String → List Visit → Walk (List Row)}
    (henter : ∀ key rest, Metered (enter key rest)) : ∀ agenda, Metered (visit recursive enter agenda)
  | [] => metered_pure []
  | v :: rest => by
    rw [visit_cons]
    refine metered_bind (metered_liftM _) fun row => metered_bind ?_ fun rows => metered_pure (row :: rows)
    split
    · exact henter _ rest
    · exact metered_visit henter rest

theorem metered_visitAll (recursive : Bool) : ∀ limit agenda, Metered (visitAll recursive limit agenda)
  | 0, agenda => metered_visit (fun _ _ => metered_throw _) agenda
  | limit + 1, agenda =>
      metered_visit (fun key rest => metered_bind (metered_expand recursive key) fun found =>
      metered_bind (metered_visitAll recursive limit (found.2 ++ rest)) fun _ => metered_pure _) agenda

theorem metered_walk (recursive : Bool) (limit : Nat) (path : String) :
    Metered (walk recursive limit path) := by
  refine metered_attempt (metered_expand recursive path) fun r => ?_
  cases r with
  | error fault =>
    show Metered (if isMissing fault then pure [] else throw fault)
    split
    · exact metered_pure []
    · exact metered_throw fault
  | ok found => exact metered_bind (metered_visitAll recursive limit found.2) fun _ => metered_pure _

/-! ### Whole walks -/

/-- The counterpart that answers as a tree does, and keeps what it was asked and what it answered. -/
def remembering (tree : String → σ → Except Fault (List FileStatus) × σ) (path : String)
    (s : σ × List (Turn protocol)) : Except Fault (List FileStatus) × σ × List (Turn protocol) :=
  ((tree path s.1).1, (tree path s.1).2, s.2 ++ [⟨path, (tree path s.1).1⟩])

/-- What is told to a dialogue, and how it ends, does not depend on the budget beside it; and the budget is
told by what was counted. -/
theorem run_meter (tree : String → σ → Except Fault (List FileStatus) × σ)
    (d : Dialogue protocol (Except Fault α)) (serials : Nat) (s : σ) (before : List (Turn protocol)) :
    ∃ r turns t, ∀ budget,
      let o := run (P := protocol) (remembering tree) (meter budget d) serials (s, before)
      o.value = (r, budget.left (counts turns)) ∧ o.state = (t, before ++ turns) ∧
        Event.questions o.events = turns.map Turn.question ∧
        Event.notes o.events = budget.notes (counts turns) := by
  induction d generalizing serials s before with
  | done r =>
    refine ⟨r, [], s, fun budget => ⟨?_, ?_, rfl, ?_⟩⟩
    · exact congrArg (r, ·) (Budget.left_nil budget).symm
    · exact congrArg (s, ·) (List.append_nil before).symm
    · exact (Budget.notes_nil budget).symm
  | ask path next ih =>
    let x : Turn protocol := ⟨path, (tree path s).1⟩
    obtain ⟨r, turns, t, hrest⟩ := ih x.answer serials (tree path s).2 (before ++ [x])
    refine ⟨r, x :: turns, t, fun budget => ?_⟩
    have hstate : before ++ x :: turns = before ++ [x] ++ turns := List.append_cons before x turns
    show
      let rest := run (P := protocol) (remembering tree)
        (budget.take (counted? x) >>= fun spent => meter spent (next x.answer)) serials
          ((tree path s).2, before ++ [x])
      rest.value = _ ∧ rest.state = _ ∧ path :: Event.questions rest.events = _ ∧ Event.notes rest.events = _
    cases hcount : counted? x with
    | none =>
      obtain ⟨hvalue, hleft, hasked, hnotes⟩ := hrest budget
      rw [hstate, counts, List.filterMap_cons_none hcount]
      exact ⟨hvalue, hleft, congrArg (path :: ·) hasked, hnotes⟩
    | some n =>
      obtain ⟨hvalue, hleft, hasked, hnotes⟩ := hrest (Budget.after budget n)
      rw [hstate, counts, List.filterMap_cons_some hcount, Budget.left_cons, Budget.notes_cons,
        Budget.take_some_bind]
      cases Budget.isSpentBy budget n with
      | true => exact ⟨hvalue, hleft, congrArg (path :: ·) hasked, congrArg (Budget.spentNote :: ·) hnotes⟩
      | false => exact ⟨hvalue, hleft, congrArg (path :: ·) hasked, hnotes⟩
  | note n next ih => exact ih serials s before
  | draw next ih => exact ih _ (serials + 1) s before

/-- However many keys are wanted, a walk fetches the same paths, is told the same of them, and ends in the
same way, whatever tree it walks. What is left of the budget is what it was if no directory was listed, and
else what it exceeds all entries of the listings of directories by; that it is used up is noted once, and
only if there was something to use up. -/
theorem budget_only_hints (tree : String → σ → Except Fault (List FileStatus) × σ) (recursive : Bool)
    (limit : Nat) (path : String) (serials : Nat) (s : σ) :
    ∃ r turns t, ∀ budget,
      let o :=
        run (P := protocol) (remembering tree) ((walk recursive limit path).run.run budget) serials (s, [])
      o.value = (r, Budget.left budget (counts turns)) ∧ o.state = (t, turns) ∧
        Event.questions o.events = turns.map Turn.question ∧
        Event.notes o.events = Budget.notes budget (counts turns) := by
  obtain ⟨d, hd⟩ := metered_walk recursive limit path
  simp only [hd]
  exact run_meter tree d serials s []

end LakeStore.Listing
