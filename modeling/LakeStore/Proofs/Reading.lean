import Mathlib.Tactic.Common
import Mathlib.Data.List.Basic
import LakeStore.Lax

/-!
Looking up entries, and reading records from them.

Under a name counts the last entry that goes by it. A field that may go by several names is read from the
first of them that is present; what it is read as does not depend on that name, which is only told with the
issues.
-/

namespace LakeStore

namespace Entries

variable {α β : Type} {name other : String} {a : α} {entries : List (String × α)}

@[simp] theorem find?_nil : find? name ([] : List (String × α)) = none := rfl

theorem foldl_found (found : Option α) :
    entries.foldl (fun found e => if e.1 = name then some e.2 else found) found =
      (find? name entries).or found := by
  induction entries generalizing found with
  | nil => rfl
  | cons e entries ih =>
    rw [find?, List.foldl_cons, List.foldl_cons, ih, ih, Option.or_assoc]
    by_cases he : e.1 = name <;> simp [he]

/-- The entries behind one count more than it does. -/
theorem find?_cons (e : String × α) :
    find? name (e :: entries) = (find? name entries).or (if e.1 = name then some e.2 else none) := by
  rw [find?, List.foldl_cons, foldl_found]

/-- Under a name counts the last of the values that go by it. -/
theorem find?_eq_getLast? (name : String) (entries : List (String × α)) :
    find? name entries = ((entries.filter fun e => e.1 = name).map Prod.snd).getLast? := by
  induction entries with
  | nil => rfl
  | cons e entries ih =>
    rw [find?_cons, ih]
    by_cases he : e.1 = name
    · rw [if_pos he, List.filter_cons_of_pos (by simpa using he), List.map_cons, List.getLast?_cons,
        Option.or_some]
    · rw [if_neg he, List.filter_cons_of_neg (by simpa using he), Option.or_none]

@[simp] theorem find?_eq_none_iff : find? name entries = none ↔ name ∉ names entries := by
  induction entries with
  | nil => simp [names]
  | cons e entries ih =>
    rw [find?_cons, Option.or_eq_none_iff, ih, names, names, List.map_cons, List.mem_cons, not_or, and_comm]
    refine and_congr_left fun _ => ?_
    by_cases he : e.1 = name
    · simp [he]
    · simp [he, Ne.symm he]

/-- Entries under other names and with other values, if no two names become one. -/
theorem find?_map {f : String → String} {g : String → α → β}
    (h : ∀ e ∈ entries, f e.1 = f name → e.1 = name) :
    find? (f name) (entries.map fun e => (f e.1, g e.1 e.2)) = (find? name entries).map (g name) := by
  induction entries with
  | nil => rfl
  | cons e entries ih =>
    rw [List.map_cons, find?_cons, find?_cons, ih fun e' he' => h e' (List.mem_cons_of_mem e he'),
      Option.map_or]
    congr 1
    by_cases he : e.1 = name
    · simp [he]
    · simp [he, mt (h e List.mem_cons_self) he]

/-- The first of some names under which there is something. -/
def first? (among : List String) (entries : List (String × α)) : Option α :=
  among.findSome? fun name => find? name entries

/-- If there is nothing under the other names, it is the one name that counts. -/
theorem first?_of_forall (name : String) {among : List String}
    (h : ∀ other ∈ among, other ≠ name → find? other entries = none) :
    first? among entries = if name ∈ among then find? name entries else none := by
  induction among with
  | nil => rfl
  | cons other among ih =>
    have hrest := ih fun other' hmem => h other' (List.mem_cons_of_mem other hmem)
    rw [first?] at hrest
    rw [first?, List.findSome?_cons, hrest]
    by_cases ho : other = name
    · subst ho
      cases find? other entries <;> simp
    · rw [h other List.mem_cons_self ho]
      simp [Ne.symm ho]

end Entries

namespace Checked

variable {α β : Type} {x : Checked α} {a : α}

theorem apply_eq_ok {f : Checked (α → β)} {b : β} :
    apply f x = .ok b ↔ ∃ g a, f = .ok g ∧ x = .ok a ∧ b = g a := by
  cases f <;> cases x <;> simp [apply, eq_comm]

theorem under_eq_ok {name : String} : under name x = .ok a ↔ x = .ok a := by
  cases x <;> simp [under]

theorem also_eq_ok {issues : List Issue} : also x issues = .ok a ↔ x = .ok a ∧ issues = [] := by
  cases x <;> cases issues <;> simp [also]

@[simp] theorem toOption_under (name : String) (x : Checked α) : (x.under name).toOption = x.toOption := by
  cases x <;> rfl

@[simp] theorem toOption_apply (f : Checked (α → β)) (x : Checked α) :
    (f.apply x).toOption = f.toOption.bind fun g => x.toOption.map g := by
  cases f <;> cases x <;> rfl

end Checked

namespace Value

/-- The entries of a table all go by names. -/
@[simp] theorem named_texts (entries : List (String × Value)) :
    named (entries.map fun e => (.text e.1, e.2)) = entries := by
  rw [named, List.filterMap_map]
  exact List.filterMap_some

end Value

namespace Lax

variable {α : Type} {read : Value → Checked α}

/-- What a field of a record is read as: its default, or what one of the values is read as. -/
theorem field_eq_ok {entries : List (String × Value)} {name : String} {absent : Option α} {a : α}
    (h : field entries name absent read = .ok a) : absent = some a ∨ ∃ v, read v = .ok a := by
  unfold field fieldAmong at h
  split at h
  · exact .inr ⟨_, Checked.under_eq_ok.mp h⟩
  · cases absent with
    | none => cases h
    | some b => exact .inl (congrArg some (Except.ok.inj h))

/-- What is read is one of the texts that are allowed. -/
theorem mem_of_oneOf_eq_ok {texts : List String} {v : Value} {s : String} (h : oneOf texts v = .ok s) :
    s ∈ texts := by
  cases v with
  | text t =>
    by_cases hmem : t ∈ texts
    · rw [oneOf, if_pos hmem] at h
      exact Except.ok.inj h ▸ hmem
    · rw [oneOf, if_neg hmem] at h
      cases h
  | _ => cases h

/-- What a field with a default is read as. -/
theorem field_some_eq_ok {entries : List (String × Value)} {name : String} {absent a : α} :
    field entries name (some absent) read = .ok a ↔
      match Entries.find? name entries with
      | some v => read v = .ok a
      | none => a = absent := by
  rw [field, fieldAmong, List.findSome?_cons]
  cases Entries.find? name entries with
  | some v => exact Checked.under_eq_ok
  | none => exact ⟨fun h => (Except.ok.inj h).symm, congrArg Except.ok ∘ Eq.symm⟩

@[simp] theorem record_table (read : List (String × Value) → Checked α) (entries : List (String × Value)) :
    record read (.table entries) = read entries := by
  rw [record, Value.keyed?]
  simp

/-- What a field is read as, whatever is wrong with it. -/
theorem toOption_fieldAmong (entries : List (String × Value)) (names : List String) (absent : Option α) :
    (fieldAmong entries names absent read).toOption =
      match Entries.first? names entries with
      | some v => (read v).toOption
      | none => absent := by
  have hfirst : Entries.first? names entries =
      (names.findSome? fun name => (Entries.find? name entries).map fun v => (name, v)).map Prod.snd := by
    induction names with
    | nil => rfl
    | cons name names ih =>
      rw [Entries.first?] at ih
      rw [Entries.first?, List.findSome?_cons, List.findSome?_cons, ih]
      cases Entries.find? name entries <;> rfl
  unfold fieldAmong
  rw [hfirst]
  cases names.findSome? fun name => (Entries.find? name entries).map fun v => (name, v) with
  | some found => exact Checked.toOption_under _ _
  | none => cases absent <;> rfl

end Lax

end LakeStore
