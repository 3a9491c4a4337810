import LakeStore.Proofs.Listing
import LakeStore.Proofs.Transcript

/-!
How a walk ends, whatever it is told.

A walk goes on as long as it is told statuses, and the first answer that tells none is its last. Apart from
that it fails only with a time that is no instant, among the statuses it was told, or when it has entered as
many directories as it may.
-/

namespace LakeStore.Listing

open Dialogue
open Remote (FileStatus Exchange fetched scripted)

variable {recursive : Bool} {path key : String} {statuses : List FileStatus} {rows : List Row}
  {children : List Visit} {fault : Fault} {α β : Type}

/-! ### One directory -/

theorem itemRow_eq_error {s : FileStatus} (h : itemRow key s = .error fault) :
    ∃ e, s.lastModified = .error e ∧ fault = .time e := by
  rw [itemRow] at h
  cases hs : s.lastModified with
  | ok t => rw [hs] at h; cases h
  | error e => rw [hs] at h; exact ⟨e, rfl, (Except.error.inj h).symm⟩

theorem mapM_itemRow_eq_error (h : statuses.mapM (itemRow path) = .error fault) :
    ∃ s ∈ statuses, itemRow path s = .error fault := by
  induction statuses with
  | nil => cases h
  | cons s rest ih =>
    rw [List.mapM_cons] at h
    cases hs : itemRow path s with
    | error f =>
      rw [hs] at h
      obtain rfl : f = fault := Except.error.inj h
      exact ⟨s, List.mem_cons_self, hs⟩
    | ok row =>
      cases hrest : rest.mapM (itemRow path) with
      | error f =>
        rw [hs, hrest] at h
        obtain rfl : f = fault := Except.error.inj h
        obtain ⟨s', hs', hrow⟩ := ih hrest
        exact ⟨s', List.mem_cons_of_mem s hs', hrow⟩
      | ok rows => rw [hs, hrest] at h; cases h

/-- Rows that are made within a walk are made as they are outside. -/
theorem run_mapM_itemRow (budget : Budget) :
    (statuses.mapM (liftM ∘ itemRow path) : Walk (List Row)).run.run budget =
      .done (statuses.mapM (itemRow path), budget) := by
  induction statuses with
  | nil => rfl
  | cons s rest ih =>
    rw [List.mapM_cons, List.mapM_cons]
    cases hs : itemRow path s with
    | error f =>
      show ((liftM (itemRow path s) >>= _ : Walk (List Row)).run.run budget) = _
      rw [hs]; rfl
    | ok row =>
      show ((liftM (itemRow path s) >>= fun row => _ >>= fun rows =>
        pure (row :: rows) : Walk (List Row)).run.run budget) = _
      rw [hs]
      show ((rest.mapM (liftM ∘ itemRow path) : Walk (List Row)).run.run budget >>= _) = _
      rw [ih]
      cases rest.mapM (itemRow path) <;> rfl

/-- The rows of a path and the children to visit, once its statuses are known. -/
def expanded (recursive : Bool) (path : String) (statuses : List FileStatus) :
    Except Fault (List Row × List Visit) :=
  if path ≠ "" ∧ isObject statuses then
    if Key.namesDirectory path then .ok ([], [])
    else (statuses.mapM (itemRow path)).map fun rows => (rows, [])
  else .ok (selfRows recursive path, statuses.map fun s => (Key.stem path, s))

theorem expanded_eq_ok (h : expanded recursive path statuses = .ok (rows, children)) :
    ∀ v ∈ children, v.1 = Key.stem path ∧ v.2 ∈ statuses := by
  intro v hv
  rw [expanded] at h
  split at h
  · split at h
    · obtain ⟨-, rfl⟩ := Prod.mk.inj (Except.ok.inj h); cases hv
    · cases hrows : statuses.mapM (itemRow path) with
      | error fault => rw [hrows] at h; cases h
      | ok found =>
        rw [hrows] at h
        obtain ⟨-, rfl⟩ := Prod.mk.inj (Except.ok.inj h); cases hv
  · obtain ⟨-, rfl⟩ := Prod.mk.inj (Except.ok.inj h)
    obtain ⟨s, hs, rfl⟩ := List.mem_map.mp hv
    exact ⟨rfl, hs⟩

theorem expanded_eq_error (h : expanded recursive path statuses = .error fault) :
    ∃ s ∈ statuses, ∃ e, s.lastModified = .error e ∧ fault = .time e := by
  rw [expanded] at h
  split at h
  · split at h
    · cases h
    · cases hrows : statuses.mapM (itemRow path) with
      | error f =>
        rw [hrows] at h
        obtain rfl : f = fault := Except.error.inj h
        obtain ⟨s, hs, hrow⟩ := mapM_itemRow_eq_error hrows
        exact ⟨s, hs, itemRow_eq_error hrow⟩
      | ok found => rw [hrows] at h; cases h
  · cases h

/-- A path is asked for once, and its statuses tell the rest. -/
theorem silent_expand (recursive : Bool) (path : String) (budget : Budget) :
    ∃ spent : List FileStatus → Budget, ((expand recursive path).run.run budget).silent =
      .ask path fun answer => .done (match answer with
        | .error fault => (.error fault, budget)
        | .ok statuses => (expanded recursive path statuses, spent statuses)) := by
  refine ⟨fun statuses => if path ≠ "" ∧ isObject statuses then budget else budget.after statuses.length, ?_⟩
  refine congrArg (Dialogue.ask (P := protocol) path) (funext fun answer => ?_)
  rcases answer with fault | statuses
  · rfl
  · show silent ((if path ≠ "" ∧ isObject statuses = true then _
      else _ : Walk (List Row × List Visit)).run.run budget) = _
    simp only [expanded]
    split
    · split
      · rfl
      · show silent ((statuses.mapM (liftM ∘ itemRow path) : Walk (List Row)).run.run budget >>= _) = _
        rw [run_mapM_itemRow]
        cases statuses.mapM (itemRow path) <;> rfl
    · show silent
        ((liftM (Budget.consume (P := protocol) statuses.length) >>= fun _ => _ : Walk _).run.run budget) = _
      rw [run_bind, silent_bind, silent_consume, done_bind]
      rfl

/-! ### The whole walk -/

variable (b : Backend)

/-- What an answer tells of the children of a directory. -/
def listed (a : Except RequestFailure Remote.Response) : Except Fault (List FileStatus) :=
  fetched Remote.Payload.statuses false a

/-- The tree that a transcript tells of. -/
def retold (key : String) (s : List Exchange) (answer : Except Fault (List FileStatus))
    (t : List Exchange) : Prop :=
  Runs (P := Remote.protocol) scripted (b.children key).run s answer t

variable {b} {s t xs : List Exchange} {known : FileStatus → Prop} {limit : Nat}
  {answer : Except Fault (List FileStatus)}

theorem retold_iff : retold b key s answer t ↔ ∃ a, s = ⟨b.childrenRequest key, a⟩ :: t ∧
    answer = listed a := by
  rw [retold, Backend.runs_children]
  constructor
  · rintro ⟨_, ⟨a, hs, rfl⟩, ha⟩; exact ⟨a, hs, ha⟩
  · rintro ⟨a, hs, ha⟩; exact ⟨_, ⟨a, hs, rfl⟩, ha⟩

/-- Every answer tells of some children. -/
def Clear (xs : List Exchange) : Prop := ∀ x ∈ xs, ∃ statuses, listed x.answer = .ok statuses

theorem clear_nil : Clear [] := fun _ h => absurd h List.not_mem_nil

theorem clear_cons {x : Exchange} (hx : listed x.answer = .ok statuses) (hxs : Clear xs) : Clear (x :: xs) :=
  List.forall_mem_cons.mpr ⟨⟨statuses, hx⟩, hxs⟩

/-- One of the answers tells of a status. -/
def Tells (xs : List Exchange) (s : FileStatus) : Prop :=
  ∃ x ∈ xs, ∃ statuses, listed x.answer = .ok statuses ∧ s ∈ statuses

/-- How a part of a walk may end that knew of some statuses, and was allowed to enter some number of
directories. -/
inductive Walked (known : FileStatus → Prop) (limit : Nat) : List Exchange → Except Fault α → Prop
  | ended {xs : List Exchange} (v : α) : Clear xs → Walked known limit xs (.ok v)
  | refused {xs : List Exchange} {x : Exchange} {fault : Fault} : Clear xs → listed x.answer = .error fault →
      Walked known limit (xs ++ [x]) (.error fault)
  | untimely {xs : List Exchange} {s : FileStatus} {e : TimeFault} : Clear xs → known s ∨ Tells xs s →
      s.lastModified = .error e → Walked known limit xs (.error (.time e))
  | unfinished {xs : List Exchange} :
      Clear xs → xs.length = limit → Walked known limit xs (.error .unfinished)

theorem Walked.map {r : Except Fault α} (g : α → β) (h : Walked known limit xs r) :
    Walked known limit xs (r.map g) := by
  cases h with
  | ended v hclear => exact .ended (g v) hclear
  | refused hclear hx => exact .refused hclear hx
  | untimely hclear hs he => exact .untimely hclear hs he
  | unfinished hclear hlimit => exact .unfinished hclear hlimit

/-- One more directory is entered first, whose statuses are known from then on. -/
theorem Walked.enter {r : Except Fault α} {x : Exchange} (hx : listed x.answer = .ok statuses)
    (h : Walked (fun s => known s ∨ s ∈ statuses) limit xs r) : Walked known (limit + 1) (x :: xs) r := by
  cases h with
  | ended v hxs => exact .ended v (clear_cons hx hxs)
  | refused hxs hlast => exact .refused (clear_cons hx hxs) hlast
  | untimely hxs hs he =>
    refine .untimely (clear_cons hx hxs) ?_ he
    rcases hs with (hs | hs) | ⟨y, hy, htells⟩
    · exact .inl hs
    · exact .inr ⟨x, List.mem_cons_self, statuses, hx, hs⟩
    · exact .inr ⟨y, List.mem_cons_of_mem x hy, htells⟩
  | unfinished hxs hlimit => exact .unfinished (clear_cons hx hxs) (congrArg (· + 1) hlimit)

/-- A part of a walk that ends in one of these ways, whatever it is told. -/
def Goes (b : Backend) (known : FileStatus → Prop) (limit : Nat) (x : Walk α) : Prop :=
  ∀ budget s r spent t, Runs (P := protocol) (retold b) (x.run.run budget) s (r, spent) t →
    ∃ xs, s = xs ++ t ∧ Walked known limit xs r

theorem goes_pure (v : α) : Goes b known limit (pure v) := by
  intro budget s r spent t h
  obtain ⟨hr, rfl⟩ := runs_done_iff.mp h
  obtain ⟨rfl, -⟩ := Prod.mk.inj hr
  exact ⟨[], rfl, .ended v clear_nil⟩

theorem goes_fail (h : Walked known limit [] (.error fault : Except Fault α)) :
    Goes b known limit (throw fault : Walk α) := by
  intro budget s r spent t hrun
  obtain ⟨hr, rfl⟩ := runs_done_iff.mp hrun
  obtain ⟨rfl, -⟩ := Prod.mk.inj hr
  exact ⟨[], rfl, h⟩

theorem goes_map {x : Walk α} (g : α → β) (h : Goes b known limit x) :
    Goes b known limit (x >>= fun v => pure (g v)) := by
  intro budget s r spent t hrun
  rw [run_bind] at hrun
  obtain ⟨⟨v, left⟩, s', hx, hdone⟩ := runs_bind.mp hrun
  obtain ⟨xs, rfl, hwalked⟩ := h budget s v left s' hx
  have hr : r = v.map g ∧ t = s' := by
    rcases v with fault | v
    all_goals
      obtain ⟨hr, rfl⟩ := runs_done_iff.mp hdone
      exact ⟨(Prod.mk.inj hr).1, rfl⟩
  obtain ⟨rfl, rfl⟩ := hr
  exact ⟨xs, rfl, hwalked.map g⟩

/-- A row is made of a status that is known, or its time is no instant. -/
theorem goes_row {s : FileStatus} (hs : known s) {f : Row → Walk α} (hf : ∀ row, Goes b known limit (f row)) :
    Goes b known limit (liftM (itemRow key s) >>= f) := by
  cases hrow : itemRow key s with
  | ok row => exact hf row
  | error fault =>
    obtain ⟨e, he, rfl⟩ := itemRow_eq_error hrow
    exact goes_fail (.untimely clear_nil (.inl hs) he)

theorem goes_visit {enter : String → List Visit → Walk (List Row)}
    (henter : ∀ key rest, (∀ v ∈ rest, known v.2) → Goes b known limit (enter key rest)) :
    ∀ agenda : List Visit, (∀ v ∈ agenda, known v.2) → Goes b known limit (visit recursive enter agenda)
  | [], _ => goes_pure []
  | (parent, s) :: rest, h => by
    obtain ⟨hs, hrest⟩ := List.forall_mem_cons.mp h
    have ih := goes_visit henter rest hrest
    rw [visit]
    by_cases hdirectory : s.isDirectory
    · rw [if_neg (by simp [hdirectory])]
      by_cases hrecursive : recursive
      · rw [if_pos hrecursive]
        exact goes_row hs fun row => goes_map (row :: ·) (henter _ rest hrest)
      · rw [if_neg hrecursive]
        exact goes_map _ ih
    · rw [if_pos (by simp [hdirectory])]
      exact goes_row hs fun row => goes_map (row :: ·) ih

/-- How a directory is entered: its statuses are asked for, and either they are told and the walk goes on
with them, or it fails with what is told instead. -/
theorem goes_enter {f : List Row × List Visit → Walk α}
    (hf : ∀ (statuses : List FileStatus) rows children, (∀ v ∈ children, v.2 ∈ statuses) →
      Goes b (fun s => known s ∨ s ∈ statuses) limit (f (rows, children))) :
    Goes b known (limit + 1) (expand recursive path >>= f) := by
  intro budget s r spent t hrun
  rw [run_bind] at hrun
  obtain ⟨⟨v, left⟩, s', hexpand, hrest⟩ := runs_bind.mp hrun
  obtain ⟨spend, hsilent⟩ := silent_expand recursive path budget
  obtain ⟨answer, hanswer, hv⟩ := (runs_of_silent_eq hsilent).mp hexpand
  obtain ⟨a, rfl, rfl⟩ := retold_iff.mp hanswer
  cases ha : listed a with
  | error fault =>
    rw [ha] at hv
    obtain ⟨rfl, rfl⟩ := Prod.mk.inj hv
    obtain ⟨hr, rfl⟩ := runs_done_iff.mp hrest
    obtain ⟨rfl, -⟩ := Prod.mk.inj hr
    exact ⟨[⟨b.childrenRequest path, a⟩], rfl, Walked.refused clear_nil ha⟩
  | ok statuses =>
    rw [ha] at hv
    obtain ⟨rfl, rfl⟩ := Prod.mk.inj hv
    cases hexpanded : expanded recursive path statuses with
    | error fault =>
      rw [hexpanded] at hrest
      obtain ⟨hr, rfl⟩ := runs_done_iff.mp hrest
      obtain ⟨rfl, -⟩ := Prod.mk.inj hr
      obtain ⟨s, hs, e, he, rfl⟩ := expanded_eq_error hexpanded
      exact ⟨[_], rfl, Walked.enter ha (.untimely clear_nil (.inl (.inr hs)) he)⟩
    | ok found =>
      rw [hexpanded] at hrest
      obtain ⟨ys, rfl, hwalked⟩ :=
        hf statuses found.1 found.2 (fun v hv => (expanded_eq_ok hexpanded v hv).2) _ _ _ _ _
        hrest
      exact ⟨_ :: ys, rfl, hwalked.enter ha⟩

theorem goes_visitAll : ∀ (limit : Nat) {known : FileStatus → Prop} (agenda : List Visit),
    (∀ v ∈ agenda, known v.2) →
    Goes b known limit (visitAll recursive limit agenda)
  | 0, _, agenda, h => goes_visit (fun _ _ _ => goes_fail (.unfinished clear_nil rfl)) agenda h
  | limit + 1, _, agenda, h => by
    refine goes_visit (fun key rest hrest => goes_enter fun statuses rows children hchildren => ?_) agenda h
    refine goes_map (rows ++ ·) (goes_visitAll limit (children ++ rest) fun v hv => ?_)
    rcases List.mem_append.mp hv with hv | hv
    · exact .inr (hchildren v hv)
    · exact .inl (hrest v hv)

/-- A whole walk ends in one of these ways, too, unless all that it is told is that its path does not
exist. -/
theorem walked_or_missing {budget spent : Budget} {r : Except Fault (List Row)}
    (h : Runs (P := protocol) (retold b) ((walk recursive limit path).run.run budget) xs (r, spent) []) :
    (Walked (fun _ => False) (limit + 1) xs r ∧
        ∀ x fault, xs = [x] → listed x.answer = .error fault → isMissing fault = false) ∨
      ∃ x fault, xs = [x] ∧ listed x.answer = .error fault ∧ isMissing fault = true ∧ r = .ok [] := by
  have hgoes : Goes b (fun _ => False) (limit + 1) (expand recursive path >>= fun found => do
      return found.1 ++ (← visitAll recursive limit found.2)) :=
    goes_enter fun statuses rows children hchildren =>
      goes_map (rows ++ ·) (goes_visitAll limit children fun v hv => .inr (hchildren v hv))
  rw [walk, run_attempt_bind] at h
  obtain ⟨⟨v, left⟩, s', hexpand, hrest⟩ := runs_bind.mp h
  -- what is not caught ends the walk as it ends its first part
  have hpassed : Runs (P := protocol) (retold b) (following (fun found => do
      return found.1 ++ (← visitAll recursive limit found.2)) (v, left)) s' (r, spent) [] →
      Walked (fun _ => False) (limit + 1) xs r := by
    intro hrest
    obtain ⟨ys, hys, hwalked⟩ := hgoes budget xs r spent []
      (by rw [run_bind]; exact runs_bind.mpr ⟨_, _, hexpand, hrest⟩)
    rw [List.append_nil] at hys
    exact hys ▸ hwalked
  obtain ⟨spend, hsilent⟩ := silent_expand recursive path budget
  obtain ⟨answer, hanswer, hv⟩ := (runs_of_silent_eq hsilent).mp hexpand
  obtain ⟨a, rfl, rfl⟩ := retold_iff.mp hanswer
  cases ha : listed a with
  | error fault =>
    rw [ha] at hv
    obtain ⟨rfl, rfl⟩ := Prod.mk.inj hv
    change Runs _ ((if isMissing fault = true then pure [] else throw fault : Walk (List Row)).run.run left)
      s' _ _
      at hrest
    cases hmissing : isMissing fault with
    | false =>
      rw [hmissing, if_neg Bool.false_ne_true] at hrest
      refine .inl ⟨hpassed hrest, ?_⟩
      rintro x f hx hf
      obtain rfl := (List.cons.inj hx).1
      rwa [← Except.error.inj (ha.symm.trans hf)]
    | true =>
      rw [hmissing, if_pos rfl] at hrest
      obtain ⟨hr, rfl⟩ := runs_done_iff.mp hrest
      exact .inr ⟨_, fault, rfl, ha, hmissing, (Prod.mk.inj hr).1⟩
  | ok statuses =>
    rw [ha] at hv
    obtain ⟨rfl, rfl⟩ := Prod.mk.inj hv
    refine .inl ⟨?_, ?_⟩
    · cases hexpanded : expanded recursive path statuses with
      | error fault =>
        obtain ⟨-, -, e, -, rfl⟩ := expanded_eq_error hexpanded
        rw [hexpanded] at hrest hpassed
        exact hpassed hrest
      | ok found =>
        rw [hexpanded] at hrest hpassed
        exact hpassed hrest
    · rintro x f hx hf
      obtain rfl := (List.cons.inj hx).1
      rw [ha] at hf
      cases hf

end LakeStore.Listing
