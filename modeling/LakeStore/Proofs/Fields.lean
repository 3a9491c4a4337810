import LakeStore.Log.Record
import LakeStore.Proofs.Overlay

/-!
Which value a field of a log record has.

A record is written from what it has of its own, what is bound, what correlates it with an exchange, and the
failure that it is about, each of which replaces what goes by its name before it. What is bound under a name
is what was last bound under it and not cleared since; what a block binds goes with the block. So everything
bound is on the record, and what the record has of its own is there too, unless another text is bound under
its name.
-/

namespace LakeStore

namespace Entries

variable {α : Type} {name : String} {entries : List (String × α)}

/-- Clearing names clears what is found under them, and nothing else. -/
theorem find?_without (ns : List String) :
    find? name (without ns entries) = if name ∈ ns then none else find? name entries := by
  induction entries with
  | nil => simp [without]
  | cons e entries ih =>
    rw [without] at ih ⊢
    by_cases he : e.1 ∈ ns
    · rw [List.filter_cons_of_neg (by simpa using he), ih, find?_cons]
      by_cases hn : name ∈ ns
      · rw [if_pos hn, if_pos hn]
      · have hne : e.1 ≠ name := fun h => hn (h ▸ he)
        rw [if_neg hn, if_neg hn, if_neg hne, Option.or_none]
    · rw [List.filter_cons_of_pos (by simpa using he), find?_cons, ih, find?_cons]
      by_cases hn : name ∈ ns
      · have hne : e.1 ≠ name := fun h => he (h ▸ hn)
        rw [if_pos hn, if_pos hn, if_neg hne, Option.or_none]
      · rw [if_neg hn, if_neg hn]

theorem nodup_without (ns : List String) (h : (names entries).Nodup) : (names (without ns entries)).Nodup :=
  h.sublist (List.filter_sublist.map Prod.fst)

theorem find?_mapValues {β : Type} (f : α → β) :
    find? name (mapValues f entries) = (find? name entries).map f :=
  find?_map (f := id) (g := fun _ => f) fun _ _ h => h

theorem names_mapValues {β : Type} (f : α → β) : names (mapValues f entries) = names entries :=
  List.map_map

end Entries

namespace Log

namespace Context

variable {c : Context} {name : String} {values : List (String × Value)} {names : List String}

/-- The texts that values are bound by. An absent value has none. -/
def texts (values : List (String × Value)) : List (String × String) :=
  values.filterMap fun e => match e.2 with
    | .null => none
    | v => some (e.1, v.display)

/-! ### What is bound under a name -/

theorem bind_eq_putAll : c.bind values = Entries.putAll c (texts values) := by
  induction values generalizing c with
  | nil => rfl
  | cons e values ih =>
    obtain ⟨name, v⟩ := e
    rw [bind, List.foldl_cons, ← bind, ih]
    cases v <;> rfl

/-- The last text that is bound under a name counts, and what was bound before if there is none. -/
theorem find?_bind (h : (Entries.names c).Nodup) :
    Entries.find? name (c.bind values) = (Entries.find? name (texts values)).or (Entries.find? name c) := by
  rw [bind_eq_putAll, Entries.find?_putAll h]

theorem nodup_bind (h : (Entries.names c).Nodup) : (Entries.names (c.bind values)).Nodup := by
  rw [bind_eq_putAll]
  exact Entries.nodup_putAll h

theorem find?_clear :
    Entries.find? name (c.clear names) = if names = [] ∨ name ∈ names then none
    else Entries.find? name c := by
  rw [clear]
  by_cases hnames : names = []
  · rw [if_pos hnames, if_pos (.inl hnames), Entries.find?_nil]
  · rw [if_neg hnames, Entries.find?_without]
    simp only [hnames, false_or]

theorem nodup_clear (h : (Entries.names c).Nodup) : (Entries.names (c.clear names)).Nodup := by
  rw [clear]
  split
  · exact List.nodup_nil
  · exact Entries.nodup_without names h

/-! ### Changes of what is bound -/

/-- A change of what is bound. -/
inductive Change where
  | bind (values : List (String × Value))
  | clear (names : List String)
  | enter (values : List (String × Value))
  | leave

namespace Scope

variable {s : Scope}

/-- What is bound after a change. -/
def change (s : Scope) : Change → Scope
  | .bind values => s.bind values
  | .clear names => s.clear names
  | .enter values => s.enter values
  | .leave => s.leave

/-- What is bound after some changes. -/
def changeAll (s : Scope) (changes : List Change) : Scope := changes.foldl change s

/-- What is bound now and around each block is bound under every name once. -/
structure Tidy (s : Scope) : Prop where
  current : (Entries.names s.current).Nodup
  saved : ∀ c ∈ s.saved, (Entries.names c).Nodup

theorem Tidy.change (h : s.Tidy) (ch : Change) : (s.change ch).Tidy := by
  cases ch with
  | bind values => exact ⟨nodup_bind h.current, h.saved⟩
  | clear names => exact ⟨nodup_clear h.current, h.saved⟩
  | enter values => exact ⟨nodup_bind h.current, List.forall_mem_cons.mpr ⟨h.current, h.saved⟩⟩
  | leave =>
    obtain ⟨current, _ | ⟨around, saved⟩⟩ := s
    · exact h
    · obtain ⟨haround, hsaved⟩ := List.forall_mem_cons.mp h.saved
      exact ⟨haround, hsaved⟩

/-- The text that is bound under a name, and those that were bound around each block, the innermost first. -/
def slot (name : String) (s : Scope) : Option String × List (Option String) :=
  (Entries.find? name s.current, s.saved.map (Entries.find? name))

end Scope

/-- What a change does to the texts under one name. -/
def Change.apply (name : String) (slot : Option String × List (Option String)) :
    Change → Option String × List (Option String)
  | .bind values => ((Entries.find? name (texts values)).or slot.1, slot.2)
  | .clear names => (if names = [] ∨ name ∈ names then none else slot.1, slot.2)
  | .enter values => ((Entries.find? name (texts values)).or slot.1, slot.1 :: slot.2)
  | .leave =>
    match slot.2 with
    | [] => slot
    | around :: outer => (around, outer)

/-- The text that some changes leave bound under a name, if nothing was bound before. -/
def textUnder (name : String) (changes : List Change) : Option String :=
  (changes.foldl (Change.apply name) (none, [])).1

namespace Scope

variable {s : Scope}

/-- What is bound under a name is changed by what is bound and cleared under that name only. -/
theorem slot_change (h : s.Tidy) (ch : Change) : (s.change ch).slot name = ch.apply name (s.slot name) := by
  cases ch with
  | bind values => exact congrArg (·, _) (find?_bind h.current)
  | clear names => exact congrArg (·, _) find?_clear
  | enter values => exact congrArg (·, _) (find?_bind h.current)
  | leave =>
    obtain ⟨current, _ | ⟨around, saved⟩⟩ := s
    · rfl
    · rfl

theorem slot_changeAll (h : s.Tidy) (changes : List Change) (name : String) :
    (s.changeAll changes).Tidy ∧ (s.changeAll changes).slot name =
      changes.foldl (Change.apply name) (s.slot name) := by
  induction changes generalizing s with
  | nil => exact ⟨h, rfl⟩
  | cons ch changes ih =>
    rw [List.foldl_cons, ← slot_change h]
    exact ih (h.change ch)

/-- What is bound after changes, name by name. -/
theorem find?_changeAll (changes : List Change) (name : String) :
    (Entries.names (({} : Scope).changeAll changes).current).Nodup ∧
      Entries.find? name (({} : Scope).changeAll changes).current = textUnder name changes := by
  have hempty : ({} : Scope).Tidy := ⟨List.nodup_nil, fun _ hc => by cases hc⟩
  obtain ⟨htidy, hslot⟩ := slot_changeAll hempty changes name
  exact ⟨htidy.current, congrArg Prod.fst hslot⟩

end Scope

end Context

namespace Record

variable {r : Record} {t : Instant} {m name : String}

/-! ### The fields of a record -/

/-- The fields that a record has of its own, but for the failure. -/
def own (r : Record) (t : Instant) (m : String) : List (String × Value) :=
  [("timestamp", .text t.iso), ("level", r.level), ("logger", r.logger), ("message", .text m)]

/-- The field of the failure that a record is about. -/
def failure (r : Record) : List (String × Value) := (r.exception.map fun e => ("exception", .text e)).toList

/-- What a record is correlated by under a name. An absent value is none. -/
def correlating? (r : Record) (name : String) : Option Value :=
  match Entries.find? name r.extra with
  | some .null => none
  | found => found

theorem correlation_eq :
    correlation r.extra = correlationNames.filterMap fun n => (r.correlating? n).map (n, ·) := by
  refine List.filterMap_congr fun name _ => ?_
  rw [correlating?]
  rcases Entries.find? name r.extra with _ | v
  · rfl
  · cases v <;> rfl

theorem find?_correlation :
    Entries.find? name (correlation r.extra) = if name ∈ correlationNames then r.correlating? name
    else none := by
  rw [correlation_eq, Entries.find?_filterMap]

theorem fields_of_table {entries : List (String × Value)} (h : r.context = .table entries) :
    r.fields = .ok (Entries.putAll entries (correlation r.extra)) := by
  rw [fields, bound, h]
  cases entries with
  | nil => rfl
  | cons e entries => rfl

/-- A record whose instant and message can be told is written, whatever is bound and whatever it is
correlated by. -/
theorem payload_eq {entries : List (String × Value)} (h : r.context = .table entries) (ht : r.instant = .ok t)
    (hm : r.message = .ok m) :
    r.payload =
      .ok (Entries.putAll (Entries.putAll (r.own t m) (Entries.putAll entries (correlation r.extra)))
      r.failure) := by
  rw [payload, ht, hm, fields_of_table h, failure]
  cases r.exception <;> rfl

theorem names_own : Entries.names (r.own t m) = ["timestamp", "level", "logger", "message"] := rfl

theorem nodup_own : (Entries.names (r.own t m)).Nodup := by rw [names_own]; decide

/-- A field of its own is not one of those that a record has from elsewhere. -/
theorem find?_own {e : String × Value} (he : e ∈ r.own t m) :
    Entries.find? e.1 (r.own t m) = some e.2 ∧ e.1 ∉ correlationNames ∧
    Entries.find? e.1 r.failure = none := by
  have hown : ∀ name ∈ Entries.names (r.own t m), name ∉ correlationNames ∧ name ≠ "exception" := by
    rw [names_own]
    decide
  obtain ⟨hcorrelation, hexception⟩ := hown e.1 (List.mem_map_of_mem he)
  refine ⟨?_, hcorrelation, ?_⟩
  · simp only [own, List.mem_cons, List.not_mem_nil, or_false] at he
    rcases he with rfl | rfl | rfl | rfl <;> rfl
  · rw [failure]
    cases r.exception with
    | none => rfl
    | some text => exact Entries.find?_eq_none_iff.mpr fun hmem => hexception (List.mem_singleton.mp hmem)

/-- Of the entries that a record is written from the later ones count. -/
theorem find?_laid {entries : List (String × Value)} (h : (Entries.names entries).Nodup) :
    Entries.find? name
        (Entries.putAll (Entries.putAll (r.own t m) (Entries.putAll entries (correlation r.extra)))
          r.failure) =
      (Entries.find? name r.failure).or
        ((if name ∈ correlationNames then r.correlating? name else none).or
          ((Entries.find? name entries).or (Entries.find? name (r.own t m)))) := by
  rw [Entries.find?_putAll (Entries.nodup_putAll nodup_own), Entries.find?_putAll nodup_own,
    Entries.find?_putAll h, find?_correlation, Option.or_assoc]

/-- What is bound goes onto a record by its text. -/
theorem find?_entries (changes : List Context.Change) (name : String) :
    (Entries.names (({} : Context.Scope).changeAll changes).current.entries).Nodup ∧
      Entries.find? name (({} : Context.Scope).changeAll changes).current.entries =
        (Context.textUnder name changes).map Value.text := by
  obtain ⟨hnodup, hfind⟩ := Context.Scope.find?_changeAll changes name
  rw [Context.entries, Entries.names_mapValues, Entries.find?_mapValues, hfind]
  exact ⟨hnodup, rfl⟩

/-- A record whose instant and message can be told is written, whatever is bound by then and whatever it is
correlated by, and each of its fields is there once: the failure that it is about; else what it is
correlated by, if that is not absent; else what is bound under the name; else what the record has of its
own. So it keeps what it has of its own exactly if nothing else is bound under those names. -/
theorem payload_fields (changes : List Context.Change)
    (hcontext : r.context = .table (({} : Context.Scope).changeAll changes).current.entries)
    (ht : r.instant = .ok t) (hm : r.message = .ok m) :
    ∃ p, r.payload = .ok p ∧ r.json = .ok (Json.write (.table p)) ∧ (Entries.names p).Nodup ∧
      (∀ name, Entries.find? name p =
        (Entries.find? name r.failure).or
          ((if name ∈ correlationNames then r.correlating? name else none).or
            (((Context.textUnder name changes).map Value.text).or (Entries.find? name (r.own t m))))) ∧
      ((∀ e ∈ r.own t m, Entries.find? e.1 p = some e.2) ↔
        ∀ e ∈ r.own t m, ∀ text, Context.textUnder e.1 changes = some text → .text text = e.2) := by
  have hpayload := payload_eq hcontext ht hm
  refine ⟨_, hpayload, by rw [json, hpayload]; rfl,
    Entries.nodup_putAll (Entries.nodup_putAll nodup_own), ?_, ?_⟩
  · intro name
    obtain ⟨hnodup, hfind⟩ := find?_entries changes name
    rw [find?_laid hnodup, hfind]
  · refine forall₂_congr fun e he => ?_
    obtain ⟨hnodup, hfind⟩ := find?_entries changes e.1
    obtain ⟨hfound, hcorrelation, hfailure⟩ := find?_own he
    -- nothing but what is bound comes before a field of its own
    rw [find?_laid hnodup, hfind, hfailure, if_neg hcorrelation, hfound, Option.none_or, Option.none_or]
    cases Context.textUnder e.1 changes with
    | none => simp
    | some text => simp

/-- A record of a process that binds its name, within a block that correlates it with a request. -/
def nested : Record where
  logger := .text "lakeblob.x"
  level := .text "ERROR"
  template := .text "m"
  created := .int 0
  context := .table (({} : Context.Scope).changeAll
    [.bind [("service", .text "lake")], .enter [("request_id", .text "outer")],
      .enter [("service", .text "inner")], .leave]).current.entries
  extra := [("request_id", .text "inner"), ("status_code", .null)]

theorem instant_nested : nested.instant = .ok ⟨0⟩ := by decide +kernel

theorem payload_fields_nested :
    ∃ p, nested.payload = .ok p ∧ Entries.find? "service" p = some (.text "lake") ∧
      Entries.find? "request_id" p = some (.text "inner") ∧ Entries.find? "status_code" p = none ∧
      Entries.find? "level" p = some (.text "ERROR") := by
  obtain ⟨p, hp, -, -, hfind, -⟩ :=
    payload_fields (r := nested) _ rfl instant_nested (rfl : nested.message = .ok "m")
  exact ⟨p, hp, hfind "service", hfind "request_id", hfind "status_code", hfind "level"⟩

/-- A record about a failure while something is bound under the name of its level. -/
def clashing : Record :=
  { nested with context := .table (({} : Context.Scope).bind [("level", .text "x")]).current.entries }

theorem bound_level_hides_own :
    ∃ p, clashing.payload = .ok p ∧ clashing.level = .text "ERROR" ∧
    Entries.find? "level" p = some (.text "x") :=
  ⟨_, payload_eq (r := clashing) rfl instant_nested (rfl : clashing.message = .ok "m"), rfl, rfl⟩

end Record

end Log

end LakeStore
