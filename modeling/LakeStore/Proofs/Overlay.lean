import Mathlib.Data.List.Nodup
import LakeStore.Proofs.Reading
import LakeStore.Value.Overlay

/-!
What is found in values that are laid over each other.

At a path stands what the two values hold there, laid over each other, if on the way to it both hold tables
or neither does. So what is not above is as it is below, however much else there is beside it above.
-/

namespace LakeStore

namespace Entries

variable {α : Type} {name other : String} {a : α} {entries more : List (String × α)}

theorem names_cons (e : String × α) : names (e :: entries) = e.1 :: names entries := rfl

theorem mem_names_put : other ∈ names (put name a entries) ↔ other = name ∨ other ∈ names entries := by
  induction entries with
  | nil => simp [names, put]
  | cons e entries ih =>
    rw [put]
    by_cases he : e.1 = name
    · simp [names_cons, he]
    · rw [if_neg he, names_cons, List.mem_cons, ih, names_cons, List.mem_cons, or_left_comm]

theorem nodup_put (h : (names entries).Nodup) : (names (put name a entries)).Nodup := by
  induction entries with
  | nil => exact List.nodup_singleton name
  | cons e entries ih =>
    obtain ⟨hnotMem, hrest⟩ := List.nodup_cons.mp h
    rw [put]
    by_cases he : e.1 = name
    · rw [if_pos he]
      exact h
    · rw [if_neg he]
      refine List.nodup_cons.mpr ⟨fun hmem => ?_, ih hrest⟩
      rcases mem_names_put.mp hmem with hname | hmem
      · exact he hname
      · exact hnotMem hmem

/-- Setting an entry changes what is found under its name, and nothing else. -/
theorem find?_put (h : (names entries).Nodup) :
    find? other (put name a entries) = if name = other then some a else find? other entries := by
  induction entries with
  | nil => rw [put, find?_cons]; simp
  | cons e entries ih =>
    obtain ⟨hnotMem, hrest⟩ := List.nodup_cons.mp h
    rw [put]
    by_cases he : e.1 = name
    · subst he
      rw [if_pos rfl, find?_cons, find?_cons]
      by_cases ho : e.1 = other
      · subst ho
        rw [find?_eq_none_iff.mpr hnotMem]
        simp
      · simp [ho]
    · rw [if_neg he, find?_cons, find?_cons, ih hrest]
      by_cases hn : name = other
      · subst hn
        simp [he]
      · simp [hn]

/-- Entries that are put in order count more than those that are there. -/
theorem find?_putAll (h : (names entries).Nodup) :
    find? name (putAll entries more) = (find? name more).or (find? name entries) := by
  induction more generalizing entries with
  | nil => rfl
  | cons e more ih =>
    rw [putAll, List.foldl_cons, ← putAll, ih (nodup_put h), find?_put h, find?_cons]
    by_cases he : e.1 = name <;> simp [he]

theorem nodup_putAll (h : (names entries).Nodup) : (names (putAll entries more)).Nodup := by
  induction more generalizing entries with
  | nil => exact h
  | cons e more ih => exact ih (nodup_put h)

/-- Entries that are made for some names. -/
theorem find?_filterMap {f : String → Option α} (names : List String) (name : String) :
    find? name (names.filterMap fun n => (f n).map (n, ·)) = if name ∈ names then f name else none := by
  induction names with
  | nil => rfl
  | cons n names ih =>
    by_cases hn : n = name
    · subst hn
      cases hf : f n with
      | none => simp [hf, ih]
      | some a =>
        rw [List.filterMap_cons_some (by rw [hf]; rfl), find?_cons, ih]
        by_cases hmem : n ∈ names <;> simp [hmem, hf]
    · cases hf : f n with
      | none => simp [hf, ih, Ne.symm hn]
      | some a => simp [hf, ih, find?_cons, hn, Ne.symm hn]

theorem names_filterMap {f : String → Option α} (ns : List String) :
    names (ns.filterMap fun n => (f n).map (n, ·)) = ns.filter fun n => (f n).isSome := by
  induction ns with
  | nil => rfl
  | cons n ns ih => cases hf : f n <;> simp [hf, ← ih, names_cons]

/-- If every name is there once, it does not matter which of its entries counts. -/
theorem find?_eq_of_nodup (h : (names entries).Nodup) :
    (entries.find? fun e => e.1 = name).map Prod.snd = find? name entries := by
  induction entries with
  | nil => rfl
  | cons e entries ih =>
    obtain ⟨hnotMem, hrest⟩ := List.nodup_cons.mp h
    rw [find?_cons, List.find?_cons]
    by_cases he : e.1 = name
    · subst he
      simp [find?_eq_none_iff.mpr hnotMem]
    · simp [he, ih hrest]

/-- Entries by names as entries by any keys. -/
def keyed (entries : List (String × α)) : List (Value × α) := entries.map fun e => (.text e.1, e.2)

@[simp] theorem named_keyed (entries : List (String × Value)) : Value.named (keyed entries) = entries :=
  Value.named_texts entries

theorem putKeyed_keyed : Value.putKeyed (.text name) a (keyed entries) = keyed (put name a entries) := by
  induction entries with
  | nil => rfl
  | cons e entries ih =>
    have hsame : (Value.text e.1).isSameKey (.text name) = decide (e.1 = name) := by
      rw [Bool.eq_iff_iff]
      simp [Value.isSameKey, Value.number?]
    show (if (Value.text e.1).isSameKey (.text name) = true then _ else _) =
      keyed (if e.1 = name then _ else _)
    rw [hsame]
    by_cases he : e.1 = name
    · simp [he, keyed]
    · simp only [he, decide_false, Bool.false_eq_true, if_false]
      exact congrArg _ ih

theorem find?_keyed (h : (names entries).Nodup) :
    ((keyed entries).find? fun e => e.1.text? == some name).map Prod.snd = find? name entries := by
  have hkey : (fun e : Value × α => e.1.text? == some name) ∘ (fun e : String × α => (Value.text e.1, e.2)) =
      fun e => decide (e.1 = name) := by
    funext e
    rw [Bool.eq_iff_iff]
    simp [Value.text?]
  rw [keyed, List.find?_map, Option.map_map, hkey]
  exact find?_eq_of_nodup h

end Entries

namespace Value

/-- A value laid over what is there, if anything is. -/
def onto (v : Value) : Option Value → Value
  | some lower => lower.over v
  | none => v

/-- What may be there below and above, laid over each other. -/
def layer? (lower : Option Value) : Option Value → Option Value
  | some v => some (v.onto lower)
  | none => lower

@[simp] theorem layer?_none_right (lower : Option Value) : layer? lower none = lower := rfl

@[simp] theorem layer?_none_left (upper : Option Value) : layer? none upper = upper := by cases upper <;> rfl

@[simp] theorem layer?_some_some (l u : Value) : layer? (some l) (some u) = some (l.over u) := rfl

end Value

namespace Entries

variable {name : String} {v : Value} {l u rest : List (String × Value)}

theorem overKeyed_cons (lower : List (Value × Value)) :
    overKeyed lower ((name, v) :: rest) =
      overKeyed (Value.putKeyed (.text name)
        (v.onto ((lower.find? fun e => e.1.text? == some name).map Prod.snd)) lower) rest := by
  rw [overKeyed]
  cases lower.find? fun e => e.1.text? == some name <;> rfl

theorem overKeyed_keyed : overKeyed (keyed l) u = keyed (Entries.over l u) := by
  induction u generalizing l with
  | nil => rw [Entries.over, ← keyed, overKeyed, named_keyed]
  | cons e rest ih =>
    rw [Entries.over, ← keyed, overKeyed_cons, putKeyed_keyed, ih, named_keyed]

@[simp] theorem over_nil : Entries.over l [] = l := by rw [Entries.over, overKeyed]; exact named_keyed l

/-- The first entry of the upper ones is set first. -/
theorem over_cons (hl : (names l).Nodup) :
    Entries.over l ((name, v) :: rest) = Entries.over (put name (v.onto (find? name l)) l) rest := by
  rw [Entries.over, ← keyed, overKeyed_cons, putKeyed_keyed, overKeyed_keyed, named_keyed, find?_keyed hl]

theorem nodup_over (hl : (names l).Nodup) : (names (Entries.over l u)).Nodup := by
  induction u generalizing l with
  | nil => rwa [over_nil]
  | cons e rest ih => rw [over_cons hl]; exact ih (nodup_put hl)

/-- Under a name stands what is there below and above, laid over each other. -/
theorem find?_over (hl : (names l).Nodup) (hu : (names u).Nodup) :
    find? name (Entries.over l u) = Value.layer? (find? name l) (find? name u) := by
  induction u generalizing l with
  | nil => simp
  | cons e rest ih =>
    obtain ⟨hnotMem, hrest⟩ := List.nodup_cons.mp hu
    -- what is set first is not set again, so that the rest lies over it without hiding it
    rw [over_cons hl, ih (nodup_put hl) hrest, find?_put hl, find?_cons]
    by_cases he : e.1 = name
    · subst he
      rw [find?_eq_none_iff.mpr hnotMem]
      simp [Value.layer?]
    · simp [he]

end Entries

namespace Value

variable {v w l u : Value} {name : String} {path : List String}

theorem ofKeyed_keyed (entries : List (String × Value)) :
    ofKeyed (Entries.keyed entries) = .table entries := by
  have hall : (Entries.keyed entries).all (fun e => e.1.text?.isSome) = true := by
    simp [Entries.keyed, text?]
  rw [ofKeyed, if_pos hall, Entries.named_keyed]

theorem table_over_table (l u : List (String × Value)) :
    (table l).over (table u) = .table (Entries.over l u) := by
  rw [Value.over, keyed?]
  show ofKeyed (Entries.overKeyed (Entries.keyed l) u) = _
  rw [Entries.overKeyed_keyed, ofKeyed_keyed]

/-! ### Paths -/

/-- What stands at a path from one table to the next. -/
def at? : List String → Value → Option Value
  | [], v => some v
  | name :: path, v => (v.get? name).bind (at? path)

theorem at?_cons (name : String) (path : List String) (v : Value) :
    v.at? (name :: path) = (v.get? name).bind (at? path) := rfl

/-- Tables that hold the same under a name hold the same behind it. -/
theorem at?_table_congr {e f : List (String × Value)} (h : Entries.find? name e = Entries.find? name f) :
    (table e).at? (name :: path) = (table f).at? (name :: path) := by
  rw [at?_cons, at?_cons, get?, get?, h]

@[simp] theorem at?_singleton (name : String) (v : Value) : v.at? [name] = v.get? name := by
  rw [at?_cons]
  cases v.get? name <;> rfl

theorem at?_append (p q : List String) (v : Value) : v.at? (p ++ q) = (v.at? p).bind (at? q) := by
  induction p generalizing v with
  | nil => rfl
  | cons name p ih =>
    rw [List.cons_append, at?_cons, at?_cons, Option.bind_assoc]
    exact congrArg _ (funext ih)

/-- A table by names. -/
def IsTable (v : Value) : Prop := ∃ entries, v = .table entries

theorem get?_eq_none (h : ¬ v.IsTable) : v.get? name = none := by
  cases v with
  | table entries => exact absurd ⟨entries, rfl⟩ h
  | _ => rfl

/-- A table that goes by names goes by each of them once. -/
def Named : Value → Prop
  | .table entries => (Entries.names entries).Nodup
  | .mapping _ => False
  | _ => True

/-- All tables that paths lead to go by names, and by each of them once. -/
def Tidy (v : Value) : Prop := ∀ path w, v.at? path = some w → w.Named

theorem Tidy.named (h : v.Tidy) : v.Named := h [] v rfl

theorem Tidy.at (h : v.Tidy) (hw : v.at? path = some w) : w.Tidy := fun rest x hx =>
  h (path ++ rest) x (by rw [at?_append, hw]; exact hx)

theorem Tidy.get (h : v.Tidy) (hw : v.get? name = some w) : w.Tidy := h.at ((at?_singleton name v).trans hw)

theorem Tidy.found {entries : List (String × Value)} (h : (Value.table entries).Tidy)
    (hw : Entries.find? name entries = some w) : w.Tidy := Tidy.get h hw

theorem Tidy.of_get (h : v.Named) (hget : ∀ name w, v.get? name = some w → w.Tidy) : v.Tidy := by
  rintro (_ | ⟨name, path⟩) w hw
  · obtain rfl := Option.some.inj hw
    exact h
  · obtain ⟨x, hx, hw⟩ := Option.bind_eq_some_iff.mp hw
    exact hget name x hx path w hw

theorem tidy_nil : (Value.table []).Tidy := .of_get List.nodup_nil fun _ _ hw => by cases hw

theorem tidy_singleton (h : v.Tidy) : (Value.table [(name, v)]).Tidy :=
  .of_get (List.nodup_singleton name) fun other w hw => by
    rw [get?, Entries.find?_cons, Entries.find?_nil, Option.none_or] at hw
    split at hw
    · exact Option.some.inj hw ▸ h
    · cases hw

/-- A value hides what lies below, unless both are tables. -/
theorem over_eq (hl : l.Named) (h : ¬ (l.IsTable ∧ u.IsTable)) : l.over u = u := by
  cases u with
  | table entries =>
    cases l with
    | table below => exact absurd ⟨⟨below, rfl⟩, entries, rfl⟩ h
    | mapping below => exact hl.elim
    | _ => simp [Value.over, keyed?]
  | _ => simp [Value.over]

/-- What is no table hides what is below it. -/
theorem layer?_eq_or {lower upper : Option Value} (hl : ∀ l, lower = some l → l.Named)
    (hu : ∀ u, upper = some u → ¬ u.IsTable) : layer? lower upper = upper.or lower := by
  cases upper with
  | none => rfl
  | some u =>
    cases lower with
    | none => rfl
    | some l => exact congrArg some (over_eq (hl l rfl) fun hboth => hu u rfl hboth.2)

theorem isTable_over_iff (hl : l.Named) : (l.over u).IsTable ↔ u.IsTable := by
  by_cases h : l.IsTable ∧ u.IsTable
  · obtain ⟨⟨le, rfl⟩, ue, rfl⟩ := h
    rw [table_over_table]
    exact iff_of_true ⟨_, rfl⟩ ⟨_, rfl⟩
  · rw [over_eq hl h]

/-- What is laid over each other is tidy if both are. -/
theorem Tidy.over (hl : l.Tidy) (hu : u.Tidy) : (l.over u).Tidy := by
  intro path
  induction path generalizing l u with
  | nil =>
    intro w hw
    obtain rfl := Option.some.inj hw
    by_cases h : l.IsTable ∧ u.IsTable
    · obtain ⟨⟨le, rfl⟩, ue, rfl⟩ := h
      rw [table_over_table]
      exact Entries.nodup_over hl.named
    · rw [over_eq hl.named h]
      exact hu.named
  | cons name path ih =>
    intro w hw
    by_cases h : l.IsTable ∧ u.IsTable
    · obtain ⟨⟨le, rfl⟩, ue, rfl⟩ := h
      obtain ⟨x, hx, hw⟩ := Option.bind_eq_some_iff.mp hw
      rw [table_over_table, get?, Entries.find?_over hl.named hu.named] at hx
      rcases ha : Entries.find? name le with _ | a <;> rcases hb : Entries.find? name ue with _ | b <;>
        rw [ha, hb] at hx
      · cases hx
      · obtain rfl := Option.some.inj hx
        exact hu.found hb path w hw
      · obtain rfl := Option.some.inj hx
        exact hl.found ha path w hw
      · obtain rfl := Option.some.inj hx
        exact ih (hl.found ha) (hu.found hb) w hw
    · rw [over_eq hl.named h] at hw
      exact hu _ w hw

/-- Neither of two values holds a table where the other one holds something else, on the way along a path. -/
def Agree (path : List String) (v w : Value) : Prop :=
  ∀ p, p <+: path → p ≠ path → ∀ a b, v.at? p = some a → w.at? p = some b → (a.IsTable ↔ b.IsTable)

theorem agree_nil (v w : Value) : Agree [] v w := fun _ hp hne => absurd (List.prefix_nil.mp hp) hne

theorem Agree.before {p : List String} (h : Agree path v w) (hp : p <+: path) : Agree p v w := fun q hq hne =>
  h q (hq.trans hp) fun heq => hne (hq.eq_of_length_le (heq ▸ hp.length_le))

theorem agree_cons_iff :
    Agree (name :: path) v w ↔
      (v.IsTable ↔ w.IsTable) ∧ ∀ a b, v.get? name = some a → w.get? name = some b → Agree path a b := by
  constructor
  · intro h
    refine ⟨h [] List.nil_prefix (List.cons_ne_nil _ _).symm v w rfl rfl,
      fun a b ha hb p hp hne a' b' ha' hb' => ?_⟩
    refine h (name :: p) ((List.prefix_cons_inj name).mpr hp)
      (fun heq => hne (List.cons.inj heq).2) a' b' ?_ ?_
    · rw [at?_cons, ha]; exact ha'
    · rw [at?_cons, hb]; exact hb'
  · rintro ⟨htable, hrest⟩ (_ | ⟨other, p⟩) hp hne a b ha hb
    · obtain rfl := Option.some.inj ha
      obtain rfl := Option.some.inj hb
      exact htable
    · obtain ⟨rfl, hrestPrefix⟩ := List.cons_prefix_cons.mp hp
      obtain ⟨a', ha', ha⟩ := Option.bind_eq_some_iff.mp ha
      obtain ⟨b', hb', hb⟩ := Option.bind_eq_some_iff.mp hb
      exact hrest a' b' ha' hb' p hrestPrefix (fun heq => hne (congrArg _ heq)) a b ha hb

/-- Two tables agree along a path if what they hold under its first name does. -/
theorem agree_tables_iff {e f : List (String × Value)} :
    Agree (name :: path) (.table e) (.table f) ↔
      ∀ a b, Entries.find? name e = some a → Entries.find? name f = some b → Agree path a b := by
  rw [agree_cons_iff]
  exact and_iff_right (iff_of_true ⟨e, rfl⟩ ⟨f, rfl⟩)

/-- At a path along which two values agree stands what they hold there, laid over each other. -/
theorem at?_over (hl : l.Tidy) (hu : u.Tidy) (h : Agree path l u) :
    (l.over u).at? path = layer? (l.at? path) (u.at? path) := by
  induction path generalizing l u with
  | nil => rfl
  | cons name path ih =>
    obtain ⟨htable, hrest⟩ := agree_cons_iff.mp h
    by_cases hut : u.IsTable
    · obtain ⟨le, rfl⟩ := htable.mpr hut
      obtain ⟨ue, rfl⟩ := hut
      rw [table_over_table, at?_cons, at?_cons, at?_cons, get?, get?, get?,
        Entries.find?_over hl.named hu.named]
      rcases ha : Entries.find? name le with _ | a <;> rcases hb : Entries.find? name ue with _ | b
      · rfl
      · simp
      · rfl
      · exact ih (hl.found ha) (hu.found hb) (hrest a b ha hb)
    · have hlt : ¬ l.IsTable := fun hlt => hut (htable.mp hlt)
      rw [over_eq hl.named fun hboth => hut hboth.2, at?_cons, at?_cons, get?_eq_none hut, get?_eq_none hlt]
      rfl

/-- A value that agrees with two that agree with each other agrees with them as they lie over each other. -/
theorem Agree.over (hl : l.Tidy) (hu : u.Tidy) (hvl : Agree path v l) (hvu : Agree path v u)
    (hlu : Agree path l u) : Agree path v (l.over u) := by
  intro p hp hne a b ha hb
  rw [at?_over hl hu (hlu.before hp)] at hb
  rcases hlp : l.at? p with _ | c <;> rcases hup : u.at? p with _ | d <;> rw [hlp, hup] at hb
  · cases hb
  · obtain rfl := Option.some.inj hb
    exact hvu p hp hne a d ha hup
  · obtain rfl := Option.some.inj hb
    exact hvl p hp hne a c ha hlp
  · obtain rfl := Option.some.inj hb
    exact (hvu p hp hne a d ha hup).trans (isTable_over_iff (hl p c hlp)).symm

end Value

end LakeStore
