import LakeStore.Proofs.Exchange
import LakeStore.Proofs.Tree

/-!
What listings make of a directory tree, and how the parts of a walk run.

A flat listing has one item for each node below a directory, with the key of its path; the directories among
them go by the keys of their placeholders. A listing is a walk that is told what the remote says of the
children of each key.
-/

namespace LakeStore.Listing

open Dialogue
open Remote (FileStatus)
open Forest (Listable Proper)

/-- The item of a node under a key. -/
def item (key : String) (e : Entry) : Blob.Item :=
  ⟨key, e.length, (Instant.ofMillis e.modified).toOption.map Moment.ofInstant⟩

/-- The items of all nodes below a key: files go by their keys, directories by those of their placeholders. -/
def items (parent : String) : Forest → List Blob.Item
  | .nil => []
  | .file e rest => item (Key.child parent e.name) e :: items parent rest
  | .folder e inside rest =>
    item (Key.placeholder (Key.child parent e.name)) e :: items (Key.child parent e.name) inside ++
      items parent rest

/-- The children that are still to be visited, with the key of their parent. -/
def visits (parent : String) (f : Forest) : List Visit := f.statuses.map fun s => (parent, s)

variable {α β : Type}

/-! ### Parts of a walk -/

/-- What follows a part of a walk: a failure ends it, and leaves the budget as it is. -/
def following (f : α → Walk β) : Except Fault α × Budget → Dialogue protocol (Except Fault β × Budget)
  | (.ok a, spent) => (f a).run.run spent
  | (.error fault, spent) => .done (.error fault, spent)

theorem run_bind (x : Walk α) (f : α → Walk β) (budget : Budget) :
    (x >>= f).run.run budget = x.run.run budget >>= following f := by
  show x.run.run budget >>= _ = _
  congr 1
  funext p
  rcases p with ⟨_ | _, _⟩ <;> rfl

theorem silent_consume (count : Int) (budget : Budget) :
    ((liftM (Budget.consume (P := protocol) count) : Walk Unit).run.run budget).silent =
      .done (.ok (), budget.after count) := by
  have hbind : (liftM (Budget.consume (P := protocol) count) : Walk Unit).run.run budget =
      Budget.consume (P := protocol) count budget >>= fun p => .done (.ok p.1, p.2) := rfl
  rw [hbind, silent_bind, Budget.consume]
  cases budget.isSpentBy count <;> rfl

/-- A part of a walk whose failure is looked at, too. -/
theorem run_attempt_bind (x : Walk α) (f : Except Fault α → Walk β) (budget : Budget) :
    (ExceptT.lift x.run >>= f : Walk β).run.run budget = x.run.run budget >>= fun p =>
      (f p.1).run.run p.2 := by
  rw [run_bind]
  exact bind_assoc (x.run.run budget) (fun p => .done (.ok p.1, p.2)) (following f)

/-! ### Statuses and rows -/

theorem isObject_eq_false {f : Forest} (hf : f.Proper) : isObject f.statuses = false := by
  rcases f with _ | ⟨e, rest⟩ | ⟨e, inside, rest⟩
  · rfl
  · cases hrest : rest.statuses with
    | nil => rw [Forest.statuses, hrest, isObject]; exact beq_eq_false_iff_ne.mpr hf.1.name.1
    | cons s more => rw [Forest.statuses, hrest]; rfl
  · cases hrest : rest.statuses with
    | nil => rw [Forest.statuses, hrest, isObject]; exact beq_eq_false_iff_ne.mpr hf.1.name.1
    | cons s more => rw [Forest.statuses, hrest]; rfl

theorem itemRow_eq {e : Entry} (he : Listable e) (key type : String) :
    itemRow key ⟨e.length, e.name, type, e.modified⟩ = .ok (.item (item key e)) := by
  obtain ⟨t, ht⟩ := he.modified
  rw [itemRow, Remote.FileStatus.lastModified, item, ht]; rfl

theorem collect_items (is : List Blob.Item) : collect none (is.map Row.item) = { items := is } := by
  simp [collect, isAfter, List.filterMap_map]

/-- Each node goes by the key of its path, trailing delimiters aside. -/
theorem stem_items {f : Forest} (hf : f.Proper) (parent : String) :
    (items parent f).map (fun i => Key.stem i.key) = f.paths.map (Key.descendant parent) := by
  induction f generalizing parent with
  | nil => rfl
  | file e rest ih =>
    rw [items, Forest.paths, List.map_cons, List.map_cons, ih hf.2.2]
    exact congrArg (· :: _) (Key.stem_child parent hf.1.name)
  | folder e inside rest ihi ihr =>
    obtain ⟨he, -, hinside, hrest⟩ := hf
    rw [items, Forest.paths, List.cons_append, List.cons_append, List.map_cons, List.map_cons,
      List.map_append, List.map_append, ihi hinside, ihr hrest, List.map_map]
    have hhere : Key.stem (Key.placeholder (Key.child parent e.name)) = Key.child parent e.name := by
      rw [Key.stem_placeholder, Key.stem_child parent he.name]
    exact congrArg (· :: _) hhere

end LakeStore.Listing

namespace LakeStore.Backend

open Dialogue
open Remote (FileStatus)

/-- What an answer tells of the children of a directory. -/
def told (answer : Except Fault Remote.Response) : Except Fault (List FileStatus) :=
  Remote.settle false answer >>= fun response => response.decode Remote.Payload.statuses

variable (b : Backend) {σ : Type} {serves : Remote.Request → σ → Except Fault Remote.Response → σ → Prop}
  {s t : σ}

/-- The request for the children of a key. -/
def childrenRequest (key : String) : Remote.Request := { operation := .listStatus, path := b.path key }

theorem runs_children {key : String} {r : Except Fault (List FileStatus)} :
    Runs (P := Remote.protocol) serves (b.children key).run s r t ↔
      ∃ answer, serves (b.childrenRequest key) s answer t ∧ r = told answer :=
  runs_of_silent_eq (Remote.silent_fetch _ _ _)

/-- A listing that is supported is a walk to which the children of keys are told as the remote answers for
their paths, log records aside. -/
theorem silent_list {o : ListOptions} (ho : o.objection? = none) :
    (b.list o).run.silent = silent (via (fun key => (b.children key).run)
      ((Listing.walk o.isRecursive b.reach o.root).run.run o.maxKeys) >>= fun p =>
        .done (p.1.map (Listing.collect o.marker))) := by
  rw [list, silent_observed, ho]
  show (b.walk o >>= fun rows => pure (Listing.collect o.marker rows) : Call Blob.Listing).run.silent = _
  rw [silent_run_bind, walk, silent_run_bind, silent_run_lift, bind_assoc, bind_assoc, silent_bind]
  congr 1
  funext p
  rcases p with ⟨_ | _, _⟩ <;> rfl

theorem runs_list {o : ListOptions} (ho : o.objection? = none) {r : Except Fault Blob.Listing} :
    Runs (P := Remote.protocol) serves (b.list o).run s r t ↔
      ∃ rows budget, Runs (P := Listing.protocol)
          (fun key s answer t => Runs (P := Remote.protocol) serves (b.children key).run s answer t)
          ((Listing.walk o.isRecursive b.reach o.root).run.run o.maxKeys) s (rows, budget) t ∧
        r = rows.map (Listing.collect o.marker) := by
  rw [← runs_silent, b.silent_list ho, runs_silent, runs_bind]
  constructor
  · rintro ⟨⟨rows, budget⟩, s', hwalk, hdone⟩
    obtain ⟨rfl, rfl⟩ := runs_done_iff.mp hdone
    exact ⟨rows, budget, runs_via.mp hwalk, rfl⟩
  · rintro ⟨rows, budget, hwalk, rfl⟩
    exact ⟨(rows, budget), t, runs_via.mpr hwalk, .done _ _⟩

end LakeStore.Backend
