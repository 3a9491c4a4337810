import Mathlib.Data.Fintype.Card
import Mathlib.Data.Set.Finite.Basic
import Mathlib.Logic.Relation
import LakeStore.Proofs.Recursion

/-!
When a walk ends.

A walk does not keep where it has been, and nothing bounds how deep it goes. What it fetches are paths of a
finite table and paths outside of it, so it ends unless it comes to a path that leads back to itself. Then
it fetches that path again and again. A child whose name is no more than delimiters can lead back; where no
directory has such a name, every path is longer than the one before, and no path leads back.
-/

namespace LakeStore.Listing

open Relation (ReflTransGen TransGen)
open Remote (FileStatus)

/-- Whether a walk ends of itself: how many directories it may enter makes no difference if it may enter
enough. -/
def Finishes (fetch : String → Except Fault (List FileStatus)) (recursive : Bool) (path : String) : Prop :=
  ∃ limit paths r, ∀ more ≥ limit, ∀ budget, outcome fetch (walk recursive more path) budget = (r, paths)

/-- Whether a walk that comes to `path` goes on from there to `next`: the children before it have been
visited without a fault, and it is a directory that is entered. -/
def Enters (fetch : String → Except Fault (List FileStatus)) (recursive : Bool) (path next : String) : Prop :=
  ∃ before s after, fetch path = .ok (before ++ s :: after) ∧ ¬ NamesObject path (before ++ s :: after) ∧
    (∃ paths rows, Visits fetch recursive (before.map fun s => (Key.stem path, s)) paths (.ok rows)) ∧
    (∃ row, childRow recursive next s = .ok row) ∧ Visit.isEntered recursive (Key.stem path, s) = true ∧
    next = Key.child (Key.stem path) s.pathSuffix

/-- A finite table of paths; any other path is gone. -/
def tabled (table : List (String × List FileStatus)) (path : String) : Except Fault (List FileStatus) :=
  match table.lookup path with
  | some statuses => .ok statuses
  | none => .error (gone path)

variable {fetch : String → Except Fault (List FileStatus)} {recursive : Bool} {path next : String} {v : Visit}
  {children : List Visit} {paths : List String} {r : Except Fault (List Row)}

/-- A walk ends of itself if and only if direct recursion ends. -/
theorem finishes_iff_expands : Finishes fetch recursive path ↔
    ∃ paths r, Expands fetch recursive path paths r := by
  rw [← lists_iff_expands]
  constructor
  · rintro ⟨limit, paths, r, h⟩
    rcases follows_walk fetch recursive (max limit paths.length) path with
      ⟨paths', r', hlists, -⟩ | ⟨-, paths', hlength, htakes⟩
    · exact ⟨paths', r', hlists⟩
    · -- it has fetched as many paths as it may, and these are more than it ever fetches
      have hpaths : paths' = paths :=
        congrArg Prod.snd ((htakes.outcome none).symm.trans (h _ (Nat.le_max_left ..) none))
      rw [hpaths] at hlength
      omega
  · rintro ⟨paths, r, h⟩
    exact ⟨paths.length, paths, r, fun more hmore budget =>
      (takes_walk h (Nat.le_succ_of_le hmore)).outcome budget⟩

/-! ### From one path to the next -/

/-- One child is visited if, where it is entered, the recursion ends there. -/
theorem visits_one (h : v.isEntered recursive = true → (∃ row, childRow recursive v.key v.2 = .ok row) →
      ∃ paths r, Expands fetch recursive v.key paths r) : ∃ paths r, Visits fetch recursive [v] paths r := by
  cases hrow : childRow recursive v.key v.2 with
  | error fault => exact ⟨_, _, .failed hrow⟩
  | ok row =>
    by_cases hv : v.isEntered recursive = true
    · obtain ⟨paths, r, hinside⟩ := h hv ⟨row, hrow⟩
      cases r with
      | error fault => exact ⟨_, _, .broken hrow hv hinside⟩
      | ok below => exact ⟨_, _, .entered hrow hv hinside .done⟩
    · exact ⟨_, _, .passed hrow (Bool.eq_false_iff.mpr hv) .done⟩

/-- All children are visited if the recursion ends at each that is entered after those before it. -/
theorem visits_all (h : ∀ before v after, children = before ++ v :: after →
      (∃ paths rows, Visits fetch recursive before paths (.ok rows)) → v.isEntered recursive = true →
      (∃ row, childRow recursive v.key v.2 = .ok row) → ∃ paths r, Expands fetch recursive v.key paths r) :
    ∃ paths r, Visits fetch recursive children paths r := by
  induction children using List.reverseRecOn with
  | nil => exact ⟨_, _, .done⟩
  | append_singleton before v ih =>
    obtain ⟨paths, r, hbefore⟩ :=
      ih fun before' v' after hsplit => h before' v' (after ++ [v]) (by simp [hsplit])
    cases r with
    | error fault => exact ⟨_, _, hbefore.append_error rfl⟩
    | ok rows =>
      obtain ⟨later, r, hone⟩ := visits_one (h before v [] rfl ⟨paths, rows, hbefore⟩)
      exact ⟨_, _, hone.append hbefore rfl⟩

/-- The recursion ends at a path if it ends at every path that it goes on to from there. -/
theorem expands_of_enters
    (h : ∀ next, Enters fetch recursive path next → ∃ paths r, Expands fetch recursive next paths r) :
    ∃ paths r, Expands fetch recursive path paths r := by
  cases hfetch : fetch path with
  | error fault => exact ⟨_, _, .refused hfetch⟩
  | ok statuses =>
    by_cases hobject : NamesObject path statuses
    · obtain ⟨hne, s, rfl, hs⟩ := hobject
      exact ⟨_, _, .object hne hfetch hs⟩
    · obtain ⟨paths, r, hvisits⟩ : ∃ paths r,
          Visits fetch recursive (statuses.map fun s => (Key.stem path, s)) paths r := by
        refine visits_all fun before v after hsplit hbefore hv hrow => ?_
        obtain ⟨before, rest, rfl, rfl, hrest⟩ := List.map_eq_append_iff.mp hsplit
        obtain ⟨s, after, rfl, rfl, rfl⟩ := List.map_eq_cons_iff.mp hrest
        exact h _ ⟨before, s, after, hfetch, hobject, hbefore, hrow, hv, rfl⟩
      exact ⟨_, _, .directory hfetch hobject hvisits⟩

/-- What is fetched from a path that is gone on to is fetched from the path before, which is fetched itself,
too. -/
theorem Enters.expands (henters : Enters fetch recursive path next)
    (h : Expands fetch recursive path paths r) :
    ∃ inside r', Expands fetch recursive next inside r' ∧ inside.length < paths.length := by
  obtain ⟨before, s, after, hfetch, hno, ⟨_, _, hbefore⟩, ⟨row, hrow⟩, hv, rfl⟩ := henters
  cases h with
  | refused hfetch' => rw [hfetch] at hfetch'; cases hfetch'
  | object hne hfetch' hs =>
    rw [Except.ok.inj (hfetch.symm.trans hfetch')] at hno
    exact absurd ⟨hne, _, rfl, hs⟩ hno
  | directory hfetch' _ hvisits =>
    rw [← Except.ok.inj (hfetch.symm.trans hfetch'), List.map_append, List.map_cons] at hvisits
    rcases hvisits.append_cases with ⟨fault, herror, -⟩ | ⟨inside, _, later, r', -, hrest, rfl, -⟩
    · cases (herror.unique hbefore).2
    · obtain ⟨_, hgoes, -⟩ := (visits_entered hrow hv).mp hrest
      rcases hgoes with ⟨fault, hnext, -⟩ | ⟨inside', below, later, r'', hnext, -, rfl, -⟩
      · exact ⟨_, _, hnext, by simp only [List.length_cons, List.length_append]; omega⟩
      · exact ⟨_, _, hnext, by simp only [List.length_cons, List.length_append]; omega⟩

/-- From a path that leads back to itself the recursion does not end. -/
theorem not_expands_of_cycle (hcycle : TransGen (Enters fetch recursive) path path) :
    ¬ ∃ paths r, Expands fetch recursive path paths r := by
  have hfewer : ∀ {place}, TransGen (Enters fetch recursive) path place →
      ∀ {paths r}, Expands fetch recursive path paths r →
        ∃ inside r', Expands fetch recursive place inside r' ∧ inside.length < paths.length := by
    intro place hplace paths r h
    induction hplace with
    | single henters => exact henters.expands h
    | tail _ henters ih =>
      obtain ⟨inside, r', hinside, hlt⟩ := ih
      obtain ⟨inside', r'', hnext, hlt'⟩ := henters.expands hinside
      exact ⟨inside', r'', hnext, hlt'.trans hlt⟩
  rintro ⟨paths, r, h⟩
  obtain ⟨inside, r', hinside, hlt⟩ := hfewer hcycle h
  exact absurd (h.unique hinside).1 fun heq => hlt.ne (congrArg List.length heq.symm)

theorem expands_of_reaches (hreaches : ReflTransGen (Enters fetch recursive) path next)
    (h : ∃ paths r, Expands fetch recursive path paths r) :
    ∃ paths r, Expands fetch recursive next paths r := by
  induction hreaches with
  | refl => exact h
  | tail _ henters ih =>
    obtain ⟨paths, r, hexpands⟩ := ih
    obtain ⟨inside, r', hnext, -⟩ := henters.expands hexpands
    exact ⟨inside, r', hnext⟩

/-- Where only finitely many paths can be fetched and none that is reached leads back to itself, the
recursion ends. -/
theorem expands_of_acyclic {known : List String}
    (hknown : ∀ place statuses, fetch place = .ok statuses → place ∈ known)
    (hacyclic : ∀ place, ReflTransGen (Enters fetch recursive) path place →
      ¬ TransGen (Enters fetch recursive) place place) :
    ∃ paths r, Expands fetch recursive path paths r := by
  let Place := { place : String // place ∈ known ∧ ReflTransGen (Enters fetch recursive) path place }
  let Later (a b : Place) : Prop := TransGen (Enters fetch recursive) b.1 a.1
  have hfinite : Finite Place := ((List.finite_toSet known).subset fun _ h => h.1).to_subtype
  have htrans : IsTrans Place Later := ⟨fun a b c hba hcb => hcb.trans hba⟩
  have hirrefl : Std.Irrefl Later := ⟨fun a => hacyclic a.1 a.2.2⟩
  have hwf : WellFounded Later := Finite.wellFounded_of_trans_of_irrefl Later
  have hplace : ∀ place : Place, ∃ paths r, Expands fetch recursive place.1 paths r := by
    intro place
    induction place using hwf.induction with
    | _ place ih =>
      refine expands_of_enters fun next henters => ?_
      cases hfetch : fetch next with
      | error fault => exact ⟨_, _, .refused hfetch⟩
      | ok statuses => exact ih ⟨next, hknown _ _ hfetch, place.2.2.tail henters⟩ (.single henters)
  cases hfetch : fetch path with
  | error fault => exact ⟨_, _, .refused hfetch⟩
  | ok statuses => exact hplace ⟨path, hknown _ _ hfetch, .refl⟩

/-! ### Finite tables -/

theorem mem_of_tabled {table : List (String × List FileStatus)} {statuses : List FileStatus}
    (h : tabled table path = .ok statuses) : (path, statuses) ∈ table := by
  rw [tabled] at h
  split at h
  · next hlookup =>
    obtain rfl := Except.ok.inj h
    obtain ⟨before, after, rfl, -⟩ := List.lookup_eq_some_iff.mp hlookup
    exact List.mem_append_right before List.mem_cons_self
  · cases h

theorem mem_places_of_tabled {table : List (String × List FileStatus)} {statuses : List FileStatus}
    (h : tabled table path = .ok statuses) : path ∈ table.map Prod.fst :=
  List.mem_map_of_mem (mem_of_tabled h)

/-- A walk through a finite table ends, with rows or with a fault, if and only if no path that it comes to
leads back to itself. -/
theorem finishes_iff (table : List (String × List FileStatus)) (recursive : Bool) (path : String) :
    Finishes (tabled table) recursive path ↔
    ∀ place, ReflTransGen (Enters (tabled table) recursive) path place →
      ¬ TransGen (Enters (tabled table) recursive) place place := by
  rw [finishes_iff_expands]
  constructor
  · intro h place hreaches hcycle
    exact not_expands_of_cycle hcycle (expands_of_reaches hreaches h)
  · exact expands_of_acyclic fun _ _ => mem_places_of_tabled

/-- The only child of the root is a directory without a name, which is the root again. -/
theorem endless_root : ¬ Finishes (tabled [("", [{ type := "DIRECTORY" }])]) true "" := by
  obtain ⟨t, ht⟩ : ∃ t, Instant.ofMillis 0 = .ok t := ⟨⟨0⟩, by decide +kernel⟩
  have hrow : childRow true "" { type := "DIRECTORY" } = .ok (.item ⟨"/", 0, some (Moment.ofInstant t)⟩) := by
    show itemRow "/" { type := "DIRECTORY" } = _
    rw [itemRow, FileStatus.lastModified, ht]
  rw [finishes_iff_expands]
  exact not_expands_of_cycle
    (.single ⟨[], { type := "DIRECTORY" }, [], rfl, fun h => h.1 rfl, ⟨_, _, .done⟩, ⟨_, hrow⟩, rfl, rfl⟩)

/-! ### Walks that always end -/

/-- A walk that enters no directory ends. -/
theorem finishes_flat (fetch : String → Except Fault (List FileStatus)) (path : String) :
    Finishes fetch false path := by
  refine finishes_iff_expands.mpr (expands_of_enters ?_)
  rintro next ⟨_, s, _, -, -, -, -, hv, -⟩
  exact absurd (isEntered_iff.mp hv).2 Bool.false_ne_true

/-- The way gets longer with every name that is not only delimiters. -/
theorem length_lt_stem_child {s n : String} (hn : Key.stem n ≠ "") :
    s.length < (Key.stem (Key.child s n)).length := by
  rw [Key.child]
  by_cases hne : s = ""
  · rw [if_pos hne, hne]
    exact Nat.pos_of_ne_zero fun h => hn (String.length_eq_zero_iff.mp h)
  · rw [if_neg hne, Key.stem_glue s hn, ← String.length_toList, ← String.length_toList, Key.toList_glue,
      List.length_append, List.length_cons]
    omega

/-- Where every directory has a name that is not only delimiters, a walk through a finite table ends. -/
theorem finishes_of_named {table : List (String × List FileStatus)}
    (hnamed : ∀ entry ∈ table, ∀ s ∈ entry.2, s.isDirectory = true → Key.stem s.pathSuffix ≠ "")
    (recursive : Bool) (path : String) : Finishes (tabled table) recursive path := by
  have hlonger : ∀ {place next}, Enters (tabled table) recursive place next →
      (Key.stem place).length < (Key.stem next).length := by
    rintro place _ ⟨before, s, after, hfetch, -, -, -, hv, rfl⟩
    have hs : s ∈ before ++ s :: after := List.mem_append_right before List.mem_cons_self
    exact length_lt_stem_child (hnamed _ (mem_of_tabled hfetch) s hs (beq_iff_eq.mpr (isEntered_iff.mp hv).1))
  refine finishes_iff_expands.mpr (expands_of_acyclic (fun _ _ => mem_places_of_tabled) fun place _ hcycle =>
    ?_)
  have hlt : ∀ {next}, TransGen (Enters (tabled table) recursive) place next →
      (Key.stem place).length < (Key.stem next).length := by
    intro next h
    induction h with
    | single h => exact hlonger h
    | tail _ h ih => exact ih.trans (hlonger h)
  exact (hlt hcycle).ne rfl

end LakeStore.Listing
