import LakeStore.Proofs.Walk

/-!
A walk is direct recursion.

`Expands` says what direct recursion makes of a path: which paths are fetched, in which order, and which rows
or which fault come of it. There is no such outcome where the recursion does not end. A walk keeps an agenda
of children instead of calling itself; if it may enter enough directories, it fetches the same paths and has
the same outcome, and if it may not, it stops after the last one that it may enter.
-/

namespace LakeStore.Listing

open Dialogue
open Remote (FileStatus)

variable {α β : Type}

/-! ### Direct recursion -/

/-- Whether the statuses at a path name an object: there is one, without a name. The root is no object. -/
def NamesObject (path : String) (statuses : List FileStatus) : Prop :=
  path ≠ "" ∧ ∃ s, statuses = [s] ∧ s.pathSuffix = ""

/-- The item of a status under a key. A count of milliseconds that is no instant is a fault. -/
def statusRow (key : String) (s : FileStatus) : Except Fault Row :=
  match Instant.ofMillis s.modificationTime with
  | .ok t => .ok (.item { key, size := s.length, lastModified := some (Moment.ofInstant t) })
  | .error e => .error (.time e)

/-- The rows of a path that names an object: its item, or none if the path ends with a slash. -/
def objectRows (path : String) (s : FileStatus) : Except Fault (List Row) :=
  if path.toList.getLast? = some '/' then .ok [] else (statusRow path s).map fun row => [row]

/-- The row of a directory itself where no directory is entered: an item if its path ends with a slash, and
else a folder. The root has none. -/
def ownRows (recursive : Bool) (path : String) : List Row :=
  if path = "" ∨ recursive then []
  else if path.toList.getLast? = some '/' then [.item { key := path, size := 0, lastModified := none }]
  else [.folder { path := path ++ "/" }]

/-- The row of a child: the item of an object, and for a directory an item with a slash behind its key if it
is entered, and else a folder. -/
def childRow (recursive : Bool) (key : String) (s : FileStatus) : Except Fault Row :=
  if s.type = "DIRECTORY" then
    if recursive then statusRow (key ++ "/") s else .ok (.folder { path := key ++ "/" })
  else statusRow key s

/-- The key of a child. -/
def Visit.key (v : Visit) : String := if v.1 = "" then v.2.pathSuffix else v.1 ++ "/" ++ v.2.pathSuffix

/-- Whether a child is entered. -/
def Visit.isEntered (recursive : Bool) (v : Visit) : Bool := v.2.type = "DIRECTORY" ∧ recursive

mutual

/-- What comes of a path: `paths` are fetched, in this order, and the rows or the fault `r` are the result. -/
inductive Expands (fetch : String → Except Fault (List FileStatus)) (recursive : Bool) :
    String → List String → Except Fault (List Row) → Prop
  | refused {path : String} {fault : Fault} : fetch path = .error fault →
      Expands fetch recursive path [path] (.error fault)
  | object {path : String} {s : FileStatus} : path ≠ "" → fetch path = .ok [s] → s.pathSuffix = "" →
      Expands fetch recursive path [path] (objectRows path s)
  | directory {path : String} {statuses : List FileStatus} {paths : List String}
      {r : Except Fault (List Row)} :
      fetch path = .ok statuses → ¬ NamesObject path statuses →
      Visits fetch recursive (statuses.map fun s => (Key.untailed path, s)) paths r →
      Expands fetch recursive path (path :: paths) (r.map (ownRows recursive path ++ ·))

/-- What comes of some children, one after the other. -/
inductive Visits (fetch : String → Except Fault (List FileStatus)) (recursive : Bool) :
    List Visit → List String → Except Fault (List Row) → Prop
  | done : Visits fetch recursive [] [] (.ok [])
  | failed {v : Visit} {rest : List Visit} {fault : Fault} : childRow recursive v.key v.2 = .error fault →
      Visits fetch recursive (v :: rest) [] (.error fault)
  | passed {v : Visit} {rest : List Visit} {row : Row} {paths : List String} {r : Except Fault (List Row)} :
      childRow recursive v.key v.2 = .ok row → v.isEntered recursive = false →
      Visits fetch recursive rest paths r →
      Visits fetch recursive (v :: rest) paths (r.map (row :: ·))
  | broken {v : Visit} {rest : List Visit} {row : Row} {paths : List String} {fault : Fault} :
      childRow recursive v.key v.2 = .ok row → v.isEntered recursive = true →
      Expands fetch recursive v.key paths (.error fault) →
      Visits fetch recursive (v :: rest) paths (.error fault)
  | entered {v : Visit} {rest : List Visit} {row : Row} {inside paths : List String} {below : List Row}
      {r : Except Fault (List Row)} :
      childRow recursive v.key v.2 = .ok row → v.isEntered recursive = true →
      Expands fetch recursive v.key inside (.ok below) → Visits fetch recursive rest paths r →
      Visits fetch recursive (v :: rest) (inside ++ paths) (r.map fun rows => row :: below ++ rows)

end

variable {fetch : String → Except Fault (List FileStatus)} {recursive : Bool} {path : String} {v : Visit}
  {own below rows : List Row} {children rest agenda : List Visit} {paths inside : List String} {row : Row}
  {fault : Fault} {r : Except Fault (List Row)} {limit : Nat}

/-- What fetching a path leads to: its own rows and the children to visit. -/
def opened (fetch : String → Except Fault (List FileStatus)) (recursive : Bool) (path : String) :
    Except Fault (List Row × List Visit) :=
  fetch path >>= expanded recursive path

theorem itemRow_eq_statusRow (key : String) (s : FileStatus) : itemRow key s = statusRow key s := rfl

theorem isEntered_iff : v.isEntered recursive = true ↔ v.2.type = "DIRECTORY" ∧ recursive = true :=
  decide_eq_true_iff

theorem namesDirectory_iff : Key.namesDirectory path = true ↔ path.toList.getLast? = some '/' := beq_iff_eq

theorem selfRows_eq_ownRows (recursive : Bool) (path : String) :
    selfRows recursive path = ownRows recursive path := by
  simp only [selfRows, ownRows, namesDirectory_iff]; rfl

theorem isObject_iff {statuses : List FileStatus} :
    path ≠ "" ∧ isObject statuses = true ↔ NamesObject path statuses := by
  refine and_congr_right fun _ => ?_
  match statuses with
  | [] => simp [isObject]
  | [s] => simp [isObject]
  | _ :: _ :: _ => simp [isObject]

/-- An object leads to its rows, and to no children. -/
theorem opened_object {s : FileStatus} (hne : path ≠ "") (hfetch : fetch path = .ok [s])
    (hs : s.pathSuffix = "") :
    opened fetch recursive path = (objectRows path s).map fun rows => (rows, []) := by
  rw [opened, hfetch]
  show expanded recursive path [s] = _
  rw [expanded, if_pos (isObject_iff.mpr ⟨hne, s, rfl, hs⟩), objectRows]
  by_cases hends : path.toList.getLast? = some '/'
  · rw [if_pos (namesDirectory_iff.mpr hends), if_pos hends]; rfl
  · rw [if_neg fun h => hends (namesDirectory_iff.mp h), if_neg hends, List.mapM_cons, List.mapM_nil,
      itemRow_eq_statusRow]
    cases statusRow path s <;> rfl

theorem opened_directory {statuses : List FileStatus} (hfetch : fetch path = .ok statuses)
    (hno : ¬ NamesObject path statuses) :
    opened fetch recursive path = .ok (ownRows recursive path, statuses.map fun s =>
      (Key.untailed path, s)) := by
  rw [opened, hfetch, ← selfRows_eq_ownRows]
  exact if_neg fun hobject => hno (isObject_iff.mp hobject)

namespace Expands

/-- The recursion ends where fetching a path fails. -/
theorem of_error (h : opened fetch recursive path = .error fault) :
    Expands fetch recursive path [path] (.error fault) := by
  cases hfetch : fetch path with
  | error fault' =>
    rw [opened, hfetch] at h
    obtain rfl : fault' = fault := Except.error.inj h
    exact .refused hfetch
  | ok statuses =>
    by_cases hobject : NamesObject path statuses
    · obtain ⟨hne, s, rfl, hs⟩ := hobject
      rw [opened_object hne hfetch hs] at h
      have hexpands : Expands fetch recursive path [path] (objectRows path s) := .object hne hfetch hs
      cases hrows : objectRows path s with
      | error fault' =>
        rw [hrows] at h hexpands
        obtain rfl : fault' = fault := Except.error.inj h
        exact hexpands
      | ok rows => rw [hrows] at h; cases h
    · rw [opened_directory hfetch hobject] at h; cases h

/-- It goes on with the children that fetching a path leads to. -/
theorem of_ok (h : opened fetch recursive path = .ok (own, children))
    (hvisits : Visits fetch recursive children inside r) :
    Expands fetch recursive path (path :: inside) (r.map (own ++ ·)) := by
  cases hfetch : fetch path with
  | error fault => rw [opened, hfetch] at h; cases h
  | ok statuses =>
    by_cases hobject : NamesObject path statuses
    · obtain ⟨hne, s, rfl, hs⟩ := hobject
      rw [opened_object hne hfetch hs] at h
      have hexpands : Expands fetch recursive path [path] (objectRows path s) := .object hne hfetch hs
      cases hrows : objectRows path s with
      | error fault => rw [hrows] at h; cases h
      | ok rows =>
        rw [hrows] at h hexpands
        obtain ⟨rfl, rfl⟩ := Prod.mk.inj (Except.ok.inj h)
        cases hvisits
        rwa [Except.map, List.append_nil]
    · rw [opened_directory hfetch hobject] at h
      obtain ⟨rfl, rfl⟩ := Prod.mk.inj (Except.ok.inj h)
      exact .directory hfetch hobject hvisits

/-- There is no other way. -/
theorem opened_cases (h : Expands fetch recursive path paths r) :
    (∃ fault, opened fetch recursive path = .error fault ∧ paths = [path] ∧ r = .error fault) ∨
      ∃ own children inside r', opened fetch recursive path = .ok (own, children) ∧
        Visits fetch recursive children inside r' ∧ paths = path :: inside ∧ r = r'.map (own ++ ·) := by
  cases h with
  | refused hfetch => exact .inl ⟨_, by rw [opened, hfetch]; rfl, rfl, rfl⟩
  | object hne hfetch hs =>
    have hopened : opened fetch recursive path = _ := opened_object hne hfetch hs
    cases hrows : objectRows path _ with
    | error fault => exact .inl ⟨fault, by rw [hopened, hrows]; rfl, rfl, rfl⟩
    | ok rows =>
      refine .inr ⟨rows, [], [], .ok [], by rw [hopened, hrows]; rfl, .done, rfl, ?_⟩
      rw [Except.map, List.append_nil]
  | directory hfetch hno hvisits => exact .inr ⟨_, _, _, _, opened_directory hfetch hno, hvisits, rfl, rfl⟩

theorem ne_nil (h : Expands fetch recursive path paths r) : paths ≠ [] := by
  cases h <;> exact List.cons_ne_nil _ _

end Expands

/-! ### One child after the other -/

theorem map_eq_error {f : α → β} {r : Except Fault α} : r.map f = .error fault ↔ r = .error fault := by
  cases r <;> simp [Except.map]

theorem map_eq_ok {f : α → β} {r : Except Fault α} {w : β} : r.map f = .ok w ↔ ∃ v, r = .ok v ∧ f v = w := by
  cases r <;> simp [Except.map]

theorem map_append (r : Except Fault (List Row)) (xs ys : List Row) :
    (r.map (ys ++ ·)).map (xs ++ ·) = r.map (xs ++ ys ++ ·) := by
  cases r <;> simp [Except.map]

theorem map_nil_append (r : Except Fault (List Row)) : r.map ([] ++ ·) = r := by cases r <;> rfl

namespace Visits

variable {more : List Visit} {later : List String}

/-- A fault among some children is what comes of them and any more. -/
theorem append_error {children : List Visit} {paths : List String} {r : Except Fault (List Row)}
    (h : Visits fetch recursive children paths r) (hr : r = .error fault) :
    Visits fetch recursive (children ++ more) paths (.error fault) := by
  match h with
  | .done => cases hr
  | .failed hrow => exact hr ▸ .failed hrow
  | .passed hrow hno hrest => exact .passed hrow hno (append_error hrest (map_eq_error.mp hr))
  | .broken hrow henter hinside => exact hr ▸ .broken hrow henter hinside
  | .entered hrow henter hinside hrest =>
      exact .entered hrow henter hinside (append_error hrest (map_eq_error.mp hr))

/-- What comes of some children and then of more. -/
theorem append (hmore : Visits fetch recursive more later r) {children : List Visit} {paths : List String}
    {rows : List Row} {r' : Except Fault (List Row)} (h : Visits fetch recursive children paths r')
    (hr : r' = .ok rows) :
    Visits fetch recursive (children ++ more) (paths ++ later) (r.map (rows ++ ·)) := by
  match h with
  | .done =>
    obtain rfl := Except.ok.inj hr
    rw [map_nil_append]
    exact hmore
  | .failed hrow => cases hr
  | @Visits.passed _ _ _ _ row _ _ hrow hno hrest =>
    obtain ⟨rows, rfl, rfl⟩ := map_eq_ok.mp hr
    have hall : (r.map (rows ++ ·)).map (row :: ·) = r.map (row :: rows ++ ·) := map_append r [row] rows
    exact hall ▸ .passed hrow hno (append hmore hrest rfl)
  | .broken hrow henter hinside => cases hr
  | @Visits.entered _ _ _ _ row _ _ below _ hrow henter hinside hrest =>
    obtain ⟨rows, rfl, rfl⟩ := map_eq_ok.mp hr
    rw [← map_append, List.append_assoc]
    exact .entered hrow henter hinside (append hmore hrest rfl)

/-- What comes of some children and more comes of them one after the other. -/
theorem append_cases (h : Visits fetch recursive (children ++ more) paths r) :
    (∃ fault, Visits fetch recursive children paths (.error fault) ∧ r = .error fault) ∨
      ∃ inside rows later r', Visits fetch recursive children inside (.ok rows) ∧
        Visits fetch recursive more later r' ∧ paths = inside ++ later ∧ r = r'.map (rows ++ ·) := by
  induction children generalizing paths r with
  | nil => exact .inr ⟨[], [], paths, r, .done, h, rfl, (map_nil_append r).symm⟩
  | cons v rest ih =>
    rw [List.cons_append] at h
    cases h with
    | failed hrow => exact .inl ⟨_, .failed hrow, rfl⟩
    | broken hrow henter hinside => exact .inl ⟨_, .broken hrow henter hinside, rfl⟩
    | passed hrow hno hrest =>
      rcases ih hrest with ⟨fault, herror, rfl⟩ | ⟨inside, rows, later, r', hok, hmore, rfl, rfl⟩
      · exact .inl ⟨fault, .passed hrow hno herror, rfl⟩
      · exact .inr ⟨inside, _, later, r', .passed hrow hno hok, hmore, rfl, map_append r' [_] rows⟩
    | entered hrow henter hinside hrest =>
      rcases ih hrest with ⟨fault, herror, rfl⟩ | ⟨inside, rows, later, r', hok, hmore, rfl, rfl⟩
      · exact .inl ⟨fault, .entered hrow henter hinside herror, rfl⟩
      · exact .inr ⟨_, _, later, r', .entered hrow henter hinside hok, hmore, (List.append_assoc ..).symm,
          map_append r' (_ :: _) rows⟩

end Visits

/-! ### One outcome -/

mutual

theorem Expands.unique {path : String} {paths paths' : List String} {r r' : Except Fault (List Row)}
    (h : Expands fetch recursive path paths r) (h' : Expands fetch recursive path paths' r') :
    paths = paths' ∧ r = r' := by
  match h with
  | .refused hfetch =>
    cases h' with
    | refused hfetch' => exact ⟨rfl, congrArg _ (Except.error.inj (hfetch.symm.trans hfetch'))⟩
    | object _ hfetch' => rw [hfetch] at hfetch'; cases hfetch'
    | directory hfetch' => rw [hfetch] at hfetch'; cases hfetch'
  | .object hne hfetch hs =>
    cases h' with
    | refused hfetch' => rw [hfetch] at hfetch'; cases hfetch'
    | object _ hfetch' =>
      obtain ⟨rfl, -⟩ := List.cons.inj (Except.ok.inj (hfetch.symm.trans hfetch'))
      exact ⟨rfl, rfl⟩
    | directory hfetch' hno =>
      obtain rfl := Except.ok.inj (hfetch.symm.trans hfetch')
      exact absurd ⟨hne, _, rfl, hs⟩ hno
  | .directory hfetch hno hvisits =>
    cases h' with
    | refused hfetch' => rw [hfetch] at hfetch'; cases hfetch'
    | object hne hfetch' hs =>
      obtain rfl := Except.ok.inj (hfetch.symm.trans hfetch')
      exact absurd ⟨hne, _, rfl, hs⟩ hno
    | directory hfetch' _ hvisits' =>
      obtain rfl := Except.ok.inj (hfetch.symm.trans hfetch')
      obtain ⟨rfl, rfl⟩ := Visits.unique hvisits hvisits'
      exact ⟨rfl, rfl⟩

theorem Visits.unique {children : List Visit} {paths paths' : List String} {r r' : Except Fault (List Row)}
    (h : Visits fetch recursive children paths r) (h' : Visits fetch recursive children paths' r') :
    paths = paths' ∧ r = r' := by
  match h with
  | .done => cases h'; exact ⟨rfl, rfl⟩
  | .failed hrow =>
    cases h' with
    | failed hrow' => exact ⟨rfl, congrArg _ (Except.error.inj (hrow.symm.trans hrow'))⟩
    | _ => simp_all
  | .passed hrow hno hrest =>
    cases h' with
    | passed hrow' _ hrest' =>
      obtain rfl := Except.ok.inj (hrow.symm.trans hrow')
      obtain ⟨rfl, rfl⟩ := Visits.unique hrest hrest'
      exact ⟨rfl, rfl⟩
    | _ => simp_all
  | .broken hrow henter hinside =>
    cases h' with
    | broken _ _ hinside' =>
      obtain ⟨rfl, hfault⟩ := Expands.unique hinside hinside'
      exact ⟨rfl, congrArg _ (Except.error.inj hfault)⟩
    | entered _ _ hinside' => cases (Expands.unique hinside hinside').2
    | _ => simp_all
  | .entered hrow henter hinside hrest =>
    cases h' with
    | broken _ _ hinside' => cases (Expands.unique hinside hinside').2
    | entered hrow' _ hinside' hrest' =>
      obtain rfl := Except.ok.inj (hrow.symm.trans hrow')
      obtain ⟨rfl, hbelow⟩ := Expands.unique hinside hinside'
      obtain rfl := Except.ok.inj hbelow
      obtain ⟨rfl, rfl⟩ := Visits.unique hrest hrest'
      exact ⟨rfl, rfl⟩
    | _ => simp_all

end

/-! ### What a walk asks for -/

/-- However many keys are wanted, a walk fetches exactly these paths, in this order, and has this outcome,
whichever of the allowed answers it gets. -/
def Takes (allowed : String → Except Fault (List FileStatus) → Prop) (x : Walk α) (paths : List String)
    (r : Except Fault α) : Prop :=
  ∀ budget, ∃ spent, Asks (P := protocol) allowed (x.run.run budget) paths (r, spent)

section Takes

variable {allowed : String → Except Fault (List FileStatus) → Prop} {x : Walk α} {f : α → Walk β} {a : α}
  {later : List String} {r' : Except Fault β}

theorem takes_liftM (r : Except Fault α) : Takes allowed (liftM r) [] r := by
  intro budget
  cases r <;> exact ⟨budget, rfl, rfl⟩

theorem takes_pure (a : α) : Takes allowed (pure a) [] (.ok a) := takes_liftM (.ok a)

theorem takes_throw (fault : Fault) : Takes allowed (throw fault : Walk α) [] (.error fault) :=
  takes_liftM (.error fault)

/-- What follows a part of a walk that went well. -/
theorem takes_bind (hx : Takes allowed x paths (.ok a)) (hf : Takes allowed (f a) later r') :
    Takes allowed (x >>= f) (paths ++ later) r' := by
  intro budget
  obtain ⟨spent, hx⟩ := hx budget
  obtain ⟨spent', hf⟩ := hf spent
  exact ⟨spent', run_bind x f budget ▸ hx.bind hf⟩

/-- A fault in a part of a walk ends it. -/
theorem takes_bind_error (hx : Takes allowed x paths (.error fault)) :
    Takes allowed (x >>= f) paths (.error fault) := by
  intro budget
  obtain ⟨spent, hx⟩ := hx budget
  have hend : Asks (P := protocol) allowed (following f (.error fault, spent)) [] (.error fault, spent) :=
    ⟨rfl, rfl⟩
  exact ⟨spent, List.append_nil paths ▸ run_bind x f budget ▸ hx.bind hend⟩

theorem takes_map (g : α → β) {r : Except Fault α} (hx : Takes allowed x paths r) :
    Takes allowed (x >>= fun a => pure (g a)) paths (r.map g) := by
  cases r with
  | error fault => exact takes_bind_error hx
  | ok a => exact List.append_nil paths ▸ takes_bind hx (takes_pure (g a))

/-- A part of a walk whose fault is looked at, too. -/
theorem takes_attempt {f : Except Fault α → Walk β} {r : Except Fault α} (hx : Takes allowed x paths r)
    (hf : Takes allowed (f r) later r') : Takes allowed (ExceptT.lift x.run >>= f) (paths ++ later) r' := by
  intro budget
  obtain ⟨spent, hx⟩ := hx budget
  obtain ⟨spent', hf⟩ := hf spent
  exact ⟨spent', run_attempt_bind x f budget ▸ hx.bind hf⟩

/-- Expanding a path fetches it, and comes to what fetching it leads to. -/
theorem takes_expand (fetch : String → Except Fault (List FileStatus)) (recursive : Bool) (path : String) :
    Takes (fun path answer => answer = fetch path) (expand recursive path) [path]
      (opened fetch recursive path) := by
  intro budget
  obtain ⟨spend, hsilent⟩ := silent_expand recursive path budget
  cases hfetch : fetch path with
  | error fault =>
    refine ⟨budget, asks_of_silent_eq hsilent ?_⟩
    rintro _ rfl
    rw [opened, hfetch]; rfl
  | ok statuses =>
    refine ⟨spend statuses, asks_of_silent_eq hsilent ?_⟩
    rintro _ rfl
    rw [opened, hfetch]; rfl

end Takes

/-! ### A walk and the recursion -/

theorem visit_cons (enter : String → List Visit → Walk (List Row)) (v : Visit) (rest : List Visit) :
    visit recursive enter (v :: rest) = liftM (childRow recursive v.key v.2) >>= fun row =>
      (if v.isEntered recursive then enter v.key rest else visit recursive enter rest) >>= fun rows =>
        pure (row :: rows) := by
  obtain ⟨parent, s⟩ := v
  have hdirectory : s.isDirectory = decide (s.type = "DIRECTORY") := rfl
  rw [visit, childRow, Visit.isEntered, hdirectory]
  by_cases hs : s.type = "DIRECTORY" <;> cases recursive <;> simp only [hs] <;> rfl

/-- What comes of entering a directory, and then of more children. -/
def Continues (fetch : String → Except Fault (List FileStatus)) (recursive : Bool) (path : String)
    (rest : List Visit) (paths : List String) (r : Except Fault (List Row)) : Prop :=
  (∃ fault, Expands fetch recursive path paths (.error fault) ∧ r = .error fault) ∨
    ∃ inside below later r', Expands fetch recursive path inside (.ok below) ∧
      Visits fetch recursive rest later r' ∧
      paths = inside ++ later ∧ r = r'.map (below ++ ·)

theorem Continues.ne_nil (h : Continues fetch recursive path rest paths r) : paths ≠ [] := by
  rcases h with ⟨fault, hpath, -⟩ | ⟨inside, below, later, r', hpath, -, rfl, -⟩
  · exact hpath.ne_nil
  · exact List.append_ne_nil_of_left_ne_nil hpath.ne_nil later

theorem continues_of_error (h : opened fetch recursive path = .error fault) :
    Continues fetch recursive path rest [path] (.error fault) :=
  .inl ⟨fault, .of_error h, rfl⟩

/-- The children of a directory are visited before those that were to be visited before. -/
theorem continues_of_ok (h : opened fetch recursive path = .ok (own, children)) :
    Continues fetch recursive path rest paths r ↔
    ∃ later r', Visits fetch recursive (children ++ rest) later r' ∧
      paths = path :: later ∧ r = r'.map (own ++ ·) := by
  constructor
  · rintro (⟨fault, hpath, rfl⟩ | ⟨inside, below, later, r', hpath, hrest, rfl, rfl⟩)
    · rcases hpath.opened_cases with ⟨_, hfault, -⟩ | ⟨own', children', later, r', hopened, hvisits, rfl, hr⟩
      · rw [h] at hfault; cases hfault
      · obtain ⟨rfl, rfl⟩ := Prod.mk.inj (Except.ok.inj (h.symm.trans hopened))
        obtain rfl := map_eq_error.mp hr.symm
        exact ⟨later, _, hvisits.append_error rfl, rfl, rfl⟩
    · rcases hpath.opened_cases with
        ⟨_, hfault, -⟩ | ⟨own', children', inside, r'', hopened, hvisits, rfl, hr⟩
      · rw [h] at hfault; cases hfault
      · obtain ⟨rfl, rfl⟩ := Prod.mk.inj (Except.ok.inj (h.symm.trans hopened))
        obtain ⟨rows, rfl, rfl⟩ := map_eq_ok.mp hr.symm
        exact ⟨inside ++ later, _, hrest.append hvisits rfl, rfl, (map_append r' own rows).symm⟩
  · rintro ⟨later, r', hvisits, rfl, rfl⟩
    rcases hvisits.append_cases with
      ⟨fault, hchildren, rfl⟩ | ⟨inside, rows, later, r', hchildren, hrest, rfl, rfl⟩
    · exact .inl ⟨fault, .of_ok h hchildren, rfl⟩
    · exact .inr ⟨path :: inside, own ++ rows, later, r', .of_ok h hchildren, hrest, rfl,
        map_append r' own rows⟩

theorem visits_entered (hrow : childRow recursive v.key v.2 = .ok row) (hv : v.isEntered recursive = true) :
    Visits fetch recursive (v :: rest) paths r ↔ ∃ r', Continues fetch recursive v.key rest paths r' ∧
      r = r'.map (row :: ·) := by
  constructor
  · intro h
    cases h with
    | broken _ _ hinside => exact ⟨_, .inl ⟨_, hinside, rfl⟩, rfl⟩
    | entered hrow' _ hinside hrest =>
      obtain rfl := Except.ok.inj (hrow.symm.trans hrow')
      exact ⟨_, .inr ⟨_, _, _, _, hinside, hrest, rfl, rfl⟩, (map_append _ [row] _).symm⟩
    | _ => simp_all
  · rintro ⟨_, ⟨fault, hinside, rfl⟩ | ⟨inside, below, later, r', hinside, hrest, rfl, rfl⟩, rfl⟩
    · exact .broken hrow hv hinside
    · have hall : (r'.map (below ++ ·)).map (row :: ·) = r'.map (row :: below ++ ·) :=
        map_append r' [row] below
      exact hall ▸ .entered hrow hv hinside hrest

theorem visits_passed (hrow : childRow recursive v.key v.2 = .ok row) (hv : v.isEntered recursive = false) :
    Visits fetch recursive (v :: rest) paths r ↔
      ∃ r', Visits fetch recursive rest paths r' ∧ r = r'.map (row :: ·) := by
  constructor
  · intro h
    cases h with
    | passed hrow' _ hrest =>
      obtain rfl := Except.ok.inj (hrow.symm.trans hrow')
      exact ⟨_, hrest, rfl⟩
    | _ => simp_all
  · rintro ⟨r', hrest, rfl⟩
    exact .passed hrow hv hrest

/-- A part of a walk that may enter `limit` directories does what `comes` tells, where that fetches no more
paths; and it stops unfinished after the last of them where that fetches more, or does not tell anything. -/
def Follows (fetch : String → Except Fault (List FileStatus)) (limit : Nat) (x : Walk (List Row))
    (comes : List String → Except Fault (List Row) → Prop) : Prop :=
  (∃ paths r, comes paths r ∧ paths.length ≤ limit ∧
    Takes (fun path answer => answer = fetch path) x paths r) ∨
    (∀ paths r, comes paths r → limit < paths.length) ∧ ∃ paths, paths.length = limit ∧
      Takes (fun path answer => answer = fetch path) x paths (.error .unfinished)

section Follows

variable {x : Walk (List Row)} {comes comes' : List String → Except Fault (List Row) → Prop}

/-- Rows that come first. -/
theorem Follows.map (g : List Row → List Row) (h : Follows fetch limit x comes)
    (hcomes : ∀ paths r, comes' paths r ↔ ∃ r', comes paths r' ∧ r = r'.map g) :
    Follows fetch limit (x >>= fun rows => pure (g rows)) comes' := by
  rcases h with ⟨paths, r, h, hle, htakes⟩ | ⟨hmore, paths, hlength, htakes⟩
  · exact .inl ⟨paths, r.map g, (hcomes _ _).mpr ⟨r, h, rfl⟩, hle, takes_map g htakes⟩
  · refine .inr ⟨fun paths r h => ?_, paths, hlength, takes_map g htakes⟩
    obtain ⟨r', h, -⟩ := (hcomes paths r).mp h
    exact hmore paths r' h

/-- One more directory is entered, and its children are visited next. -/
theorem follows_enter (h : ∀ own children, opened fetch recursive path = .ok (own, children) →
      Follows fetch limit (visitAll recursive limit (children ++ rest))
        (Visits fetch recursive (children ++ rest))) :
    Follows fetch (limit + 1) (do
      let (rows, children) ← expand recursive path
      return rows ++ (← visitAll recursive limit (children ++ rest)))
        (Continues fetch recursive path rest) := by
  have hexpand := takes_expand fetch recursive path
  cases hopened : opened fetch recursive path with
  | error fault =>
    rw [hopened] at hexpand
    exact .inl ⟨[path], _, continues_of_error hopened, Nat.succ_le_succ (Nat.zero_le _),
      takes_bind_error hexpand⟩
  | ok found =>
    obtain ⟨own, children⟩ := found
    rw [hopened] at hexpand
    have hnext :
        Follows fetch limit (visitAll recursive limit (children ++ rest) >>= fun rows => pure (own ++ rows))
        fun paths r => ∃ r', Visits fetch recursive (children ++ rest) paths r' ∧ r = r'.map (own ++ ·) :=
      (h own children hopened).map (own ++ ·) fun _ _ => Iff.rfl
    rcases hnext with ⟨paths, r, ⟨r', hvisits, hr⟩, hle, htakes⟩ | ⟨hmore, paths, hlength, htakes⟩
    · exact .inl ⟨path :: paths, r, (continues_of_ok hopened).mpr ⟨paths, r', hvisits, rfl, hr⟩,
        Nat.succ_le_succ hle, takes_bind hexpand htakes⟩
    · refine .inr ⟨fun paths r h => ?_, path :: paths, congrArg (· + 1) hlength, takes_bind hexpand htakes⟩
      obtain ⟨later, r', hvisits, rfl, hr⟩ := (continues_of_ok hopened).mp h
      exact Nat.succ_lt_succ (hmore later r ⟨r', hvisits, hr⟩)

/-- The children on an agenda, up to the next directory to enter. -/
theorem follows_visit {enter : String → List Visit → Walk (List Row)}
    (henter : ∀ path rest, Follows fetch limit (enter path rest) (Continues fetch recursive path rest)) :
    ∀ agenda, Follows fetch limit (visit recursive enter agenda) (Visits fetch recursive agenda)
  | [] => .inl ⟨[], _, .done, Nat.zero_le _, takes_pure []⟩
  | v :: rest => by
    rw [visit_cons]
    cases hrow : childRow recursive v.key v.2 with
    | error fault =>
      exact .inl ⟨[], _, .failed hrow, Nat.zero_le _, takes_bind_error (takes_liftM (.error fault))⟩
    | ok row =>
      show Follows fetch limit
        ((if v.isEntered recursive then enter v.key rest else visit recursive enter rest) >>=
        fun rows => pure (row :: rows)) _
      by_cases hv : v.isEntered recursive = true
      · rw [if_pos hv]
        exact (henter v.key rest).map (row :: ·) fun _ _ => visits_entered hrow hv
      · rw [if_neg hv]
        exact (follows_visit henter rest).map (row :: ·) fun _ _ =>
          visits_passed hrow (Bool.eq_false_iff.mpr hv)

end Follows

/-- What comes of some children is what a walk over them does. -/
theorem follows_visitAll (fetch : String → Except Fault (List FileStatus)) (recursive : Bool) :
    ∀ (limit : Nat) (agenda : List Visit),
      Follows fetch limit (visitAll recursive limit agenda) (Visits fetch recursive agenda)
  | 0, agenda =>
    follows_visit (fun _ _ => .inr ⟨fun _ _ h => List.length_pos_of_ne_nil h.ne_nil, [], rfl, takes_throw _⟩)
      agenda
  | limit + 1, agenda =>
    follows_visit (fun _ rest => follows_enter fun _ children _ =>
      follows_visitAll fetch recursive limit (children ++ rest)) agenda

/-! ### The whole walk -/

/-- Listing a path by direct recursion: a path that does not exist lists as empty, and any other fault,
wherever it occurs, is the result. -/
inductive Lists (fetch : String → Except Fault (List FileStatus)) (recursive : Bool) :
    String → List String → Except Fault (List Row) → Prop
  | missing {path message : String} {key : Value} :
      fetch path = .error (.store (.final .notFound message key)) →
      Lists fetch recursive path [path] (.ok [])
  | expanded {path : String} {paths : List String} {r : Except Fault (List Row)} :
      (∀ message key, fetch path ≠ .error (.store (.final .notFound message key))) →
      Expands fetch recursive path paths r → Lists fetch recursive path paths r

theorem isMissing_iff : isMissing fault = true ↔
    ∃ message key, fault = .store (.final .notFound message key) := by
  constructor
  · intro h
    unfold isMissing at h
    split at h
    · exact ⟨_, _, rfl⟩
    · cases h
  · rintro ⟨message, key, rfl⟩
    rfl

/-- Only a fault of the fetch itself can say that a path is missing. -/
theorem fetch_of_opened_missing (h : opened fetch recursive path = .error fault)
    (hmissing : isMissing fault = true) : fetch path = .error fault := by
  cases hfetch : fetch path with
  | error fault' => rw [opened, hfetch] at h; exact congrArg _ (Except.error.inj h)
  | ok statuses =>
    rw [opened, hfetch] at h
    obtain ⟨-, -, e, -, rfl⟩ := expanded_eq_error h
    cases hmissing

theorem Lists.unique {paths' : List String} {r' : Except Fault (List Row)}
    (h : Lists fetch recursive path paths r) (h' : Lists fetch recursive path paths' r') :
    paths = paths' ∧ r = r' := by
  cases h with
  | missing hfetch =>
    cases h' with
    | missing _ => exact ⟨rfl, rfl⟩
    | expanded hno _ => exact absurd hfetch (hno _ _)
  | expanded hno h =>
    cases h' with
    | missing hfetch => exact absurd hfetch (hno _ _)
    | expanded _ h' => exact h.unique h'

theorem lists_iff_expands : (∃ paths r, Lists fetch recursive path paths r) ↔
    ∃ paths r, Expands fetch recursive path paths r := by
  constructor
  · rintro ⟨paths, r, h⟩
    cases h with
    | missing hfetch => exact ⟨_, _, .refused hfetch⟩
    | expanded _ h => exact ⟨_, _, h⟩
  · rintro ⟨paths, r, h⟩
    by_cases hmissing : ∃ message key, fetch path = .error (.store (.final .notFound message key))
    · obtain ⟨message, key, hfetch⟩ := hmissing
      exact ⟨_, _, .missing hfetch⟩
    · exact ⟨_, _, .expanded (fun message key hfetch => hmissing ⟨message, key, hfetch⟩) h⟩

/-- A walk that may enter `limit` directories below its root. -/
theorem follows_walk (fetch : String → Except Fault (List FileStatus)) (recursive : Bool) (limit : Nat)
    (path : String) :
    Follows fetch (limit + 1) (walk recursive limit path) (Lists fetch recursive path) := by
  have hexpand := takes_expand fetch recursive path
  cases hopened : opened fetch recursive path with
  | error fault =>
    rw [hopened] at hexpand
    refine .inl ⟨[path], if isMissing fault then .ok [] else .error fault, ?_,
      Nat.succ_le_succ (Nat.zero_le _), takes_attempt hexpand ?_⟩
    · by_cases hmissing : isMissing fault = true
      · obtain ⟨message, key, rfl⟩ := isMissing_iff.mp hmissing
        exact .missing (fetch_of_opened_missing hopened hmissing)
      · rw [if_neg hmissing]
        refine .expanded (fun message key hfetch => hmissing ?_) (.of_error hopened)
        rw [opened, hfetch] at hopened
        exact isMissing_iff.mpr ⟨message, key, (Except.error.inj hopened).symm⟩
    · show Takes _ (if isMissing fault then pure [] else throw fault) _ _
      split
      · exact takes_pure []
      · exact takes_throw fault
  | ok found =>
    obtain ⟨own, children⟩ := found
    rw [hopened] at hexpand
    have hfound : ∀ message key, fetch path ≠ .error (.store (.final .notFound message key)) := by
      intro message key hfetch
      rw [opened, hfetch] at hopened
      cases hopened
    have hrest : Follows fetch limit (visitAll recursive limit children >>= fun rows => pure (own ++ rows))
        fun paths r => ∃ r', Visits fetch recursive children paths r' ∧ r = r'.map (own ++ ·) :=
      (follows_visitAll fetch recursive limit children).map (own ++ ·) fun _ _ => Iff.rfl
    rcases hrest with ⟨paths, _, ⟨r, hvisits, rfl⟩, hle, htakes⟩ | ⟨hmore, paths, hlength, htakes⟩
    · exact .inl ⟨path :: paths, _, .expanded hfound (.of_ok hopened hvisits), Nat.succ_le_succ hle,
        takes_attempt hexpand htakes⟩
    · refine .inr ⟨fun paths r h => ?_, path :: paths, congrArg (· + 1) hlength, takes_attempt hexpand htakes⟩
      cases h with
      | missing hfetch => exact absurd hfetch (hfound _ _)
      | expanded _ h =>
        rcases h.opened_cases with
          ⟨fault, hfault, -⟩ | ⟨own', children', inside, r', hopened', hvisits, rfl, rfl⟩
        · rw [hopened] at hfault; cases hfault
        · obtain ⟨rfl, rfl⟩ := Prod.mk.inj (Except.ok.inj (hopened.symm.trans hopened'))
          exact Nat.succ_lt_succ (hmore inside _ ⟨r', hvisits, rfl⟩)

/-- How a walk ends with a tree that answers by a function: the outcome, and the paths that were fetched, in
order. -/
def outcome (fetch : String → Except Fault (List FileStatus)) (x : Walk α) (budget : Budget) :
    Except Fault α × List String :=
  let conversation := (x.run.run budget).run (fun path (_ : Unit) => (fetch path, ())) 0 ()
  (conversation.value.1, Event.questions conversation.events)

theorem Takes.outcome {x : Walk α} {r : Except Fault α}
    (h : Takes (fun path answer => answer = fetch path) x paths r) (budget : Budget) :
    outcome fetch x budget = (r, paths) := by
  obtain ⟨spent, hasks⟩ := h budget
  obtain ⟨hvalue, hquestions⟩ := hasks.run (fun path _ => (fetch path, ())) (fun _ _ _ => rfl) 0 ()
  rw [Listing.outcome, hvalue, hquestions]

/-- What there is one outcome of, and what the limit is wide enough for, is what the walk does. -/
theorem Follows.takes {x : Walk (List Row)} {comes : List String → Except Fault (List Row) → Prop}
    (h : Follows fetch limit x comes)
    (hunique : ∀ {paths paths' r r'}, comes paths r → comes paths' r' → paths = paths' ∧ r = r')
    (hcomes : comes paths r) (hlimit : paths.length ≤ limit) :
    Takes (fun path answer => answer = fetch path) x paths r := by
  rcases h with ⟨paths', r', hcomes', -, htakes⟩ | ⟨hmore, -⟩
  · obtain ⟨rfl, rfl⟩ := hunique hcomes hcomes'
    exact htakes
  · exact absurd (hmore paths r hcomes) (Nat.not_lt.mpr hlimit)

theorem takes_walk (h : Lists fetch recursive path paths r) (hlimit : paths.length ≤ limit + 1) :
    Takes (fun path answer => answer = fetch path) (walk recursive limit path) paths r :=
  (follows_walk fetch recursive limit path).takes Lists.unique h hlimit

/-- Where direct recursion ends, a walk that may enter as many directories has the same outcome and fetches
the same paths in the same order. -/
theorem walk_eq_recursion (h : Lists fetch recursive path paths r) (hlimit : paths.length ≤ limit + 1)
    (budget : Budget) : outcome fetch (walk recursive limit path) budget = (r, paths) :=
  (takes_walk h hlimit).outcome budget

/-- The fault that says that a path is gone. -/
def gone (path : String) : Fault := .store (.final .notFound ("no such path: " ++ path) (.text path))

/-- An object and two directories. -/
def mixed : List FileStatus :=
  [{ pathSuffix := "x" }, { pathSuffix := "e", type := "DIRECTORY" },
    { pathSuffix := "m", type := "DIRECTORY" }]

/-- A directory with these children, of which one directory turns out to be an object, and the other one is
gone. -/
def torn : String → Except Fault (List FileStatus)
  | "d" | "d/" => .ok mixed
  | "d/e" => .ok [{ length := 3 }]
  | path => .error (gone path)

/-- The rows of these children where they are not entered. -/
def mixedRows : List Row :=
  [.item { key := "d/x", size := 0, lastModified := some (Moment.ofInstant ⟨0⟩) }, .folder ⟨"d/e/"⟩,
    .folder ⟨"d/m/"⟩]

/-- What is gone below the root is the outcome, after the paths before it have been fetched. Where no
directory is entered, the directory itself is shown first, as it was spelled. -/
theorem walk_eq_recursion_torn :
    (Lists torn true "d/" ["d/", "d/e", "d/m"] (.error (gone "d/m")) ∧ ["d/", "d/e", "d/m"].length ≤ 2 + 1 ∧
      outcome torn (walk true 2 "d/") none = (.error (gone "d/m"), ["d/", "d/e", "d/m"])) ∧
    (Lists torn false "d/" ["d/"] (.ok (.item ⟨"d/", 0, none⟩ :: mixedRows)) ∧ ["d/"].length ≤ 0 + 1 ∧
      outcome torn (walk false 0 "d/") none = (.ok (.item ⟨"d/", 0, none⟩ :: mixedRows), ["d/"])) ∧
    Lists torn false "d" ["d"] (.ok (.folder ⟨"d/"⟩ :: mixedRows)) ∧ ["d"].length ≤ 0 + 1 ∧
      outcome torn (walk false 0 "d") none = (.ok (.folder ⟨"d/"⟩ :: mixedRows), ["d"]) := by
  have hstart : Instant.ofMillis 0 = .ok ⟨0⟩ := by decide +kernel
  have hitem (key : String) (s : FileStatus) (hs : s.modificationTime = 0) : statusRow key s =
      .ok (.item ⟨key, s.length, some (Moment.ofInstant ⟨0⟩)⟩) := by
    rw [statusRow, hs, hstart]
  have hno (path : String) : ¬ NamesObject path mixed := by simp [NamesObject, mixed]
  have hx (recursive : Bool) : childRow recursive "d/x" { pathSuffix := "x" } = _ := hitem "d/x" _ rfl
  have he : childRow true "d/e" { pathSuffix := "e", type := "DIRECTORY" } = _ := hitem "d/e/" _ rfl
  have hm : childRow true "d/m" { pathSuffix := "m", type := "DIRECTORY" } = _ := hitem "d/m/" _ rfl
  have hobject : Expands torn true "d/e" ["d/e"] _ := .object (by decide) rfl rfl
  rw [objectRows, if_neg (by decide), hitem "d/e" { length := 3 } rfl] at hobject
  have hbroken :
      Visits torn true [("d", { pathSuffix := "m", type := "DIRECTORY" })] ["d/m"] (.error (gone "d/m")) :=
    .broken hm rfl (.refused rfl)
  have hentered := Visits.passed (v := ("d", { pathSuffix := "x" })) (hx true) rfl
    (.entered (v := ("d", { pathSuffix := "e", type := "DIRECTORY" })) he rfl hobject hbroken)
  have hpassed : Visits torn false (mixed.map fun s => ("d", s)) [] (.ok mixedRows) :=
    .passed (hx false) rfl (.passed rfl rfl (.passed rfl rfl .done))
  have hbelow : Expands torn true "d/" ["d/", "d/e", "d/m"] _ := .directory rfl (hno _) hentered
  have hitself : Expands torn false "d/" ["d/"] _ := .directory rfl (hno _) hpassed
  have hfolder : Expands torn false "d" ["d"] _ := .directory rfl (hno _) hpassed
  have htorn : Lists torn true "d/" ["d/", "d/e", "d/m"] (.error (gone "d/m")) :=
    .expanded (fun _ _ h => by cases h) hbelow
  have hslashed : Lists torn false "d/" ["d/"] (.ok (.item ⟨"d/", 0, none⟩ :: mixedRows)) :=
    .expanded (fun _ _ h => by cases h) hitself
  have hplain : Lists torn false "d" ["d"] (.ok (.folder ⟨"d/"⟩ :: mixedRows)) :=
    .expanded (fun _ _ h => by cases h) hfolder
  exact ⟨⟨htorn, by decide, walk_eq_recursion htorn (by decide) none⟩,
    ⟨hslashed, by decide, walk_eq_recursion hslashed (by decide) none⟩,
    hplain, by decide, walk_eq_recursion hplain (by decide) none⟩

end LakeStore.Listing
