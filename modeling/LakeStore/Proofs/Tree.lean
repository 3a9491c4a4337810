import Mathlib.Data.List.Pairwise
import LakeStore.Proofs.Path
import LakeStore.Remote.Payload

/-!
Directory trees.

The children of a directory are a `Forest`: files and folders in the order in which the remote lists them,
each folder with its own children. Nodes are found by the names on the way to them. Whatever is put in the
place of a directory can be found below it and taken away again, and nothing else changes; and taking away a
node below which there is nothing takes exactly one path from the paths of the forest.
-/

namespace LakeStore

open Remote (FileStatus)

/-- What the remote says of a node: its name, its length, and when it was last changed. -/
structure Entry where
  name : String
  length : Int := 0
  modified : Int := 0
  deriving DecidableEq, Repr

/-- The children of a directory. -/
inductive Forest where
  | nil
  | file (e : Entry) (rest : Forest)
  | folder (e : Entry) (inside rest : Forest)
  deriving DecidableEq, Repr

namespace Forest

/-- What is found at a path: a file, or a directory with its children. -/
inductive Node where
  | file
  | folder (inside : Forest)
  deriving DecidableEq, Repr

/-- The statuses by which the children of a directory are listed. -/
def statuses : Forest → List FileStatus
  | nil => []
  | file e rest => ⟨e.length, e.name, "FILE", e.modified⟩ :: statuses rest
  | folder e _ rest => ⟨e.length, e.name, "DIRECTORY", e.modified⟩ :: statuses rest

/-- The names of the children. -/
def names : Forest → List String
  | nil => []
  | file e rest => e.name :: names rest
  | folder e _ rest => e.name :: names rest

/-- The number of folders, at any depth. -/
def folders : Forest → Nat
  | nil => 0
  | file _ rest => folders rest
  | folder _ inside rest => folders inside + folders rest + 1

/-- The paths of all nodes, each directory before what is in it. -/
def paths : Forest → List (List String)
  | nil => []
  | file e rest => [e.name] :: paths rest
  | folder e inside rest => [e.name] :: (paths inside).map (e.name :: ·) ++ paths rest

/-- What is at a path; at the empty one there are all children. -/
def find? : List String → Forest → Option Node
  | [], f => some (.folder f)
  | _ :: _, nil => none
  | n :: ns, file e rest => if e.name = n then (if ns = [] then some .file else none)
      else find? (n :: ns) rest
  | n :: ns, folder e inside rest => if e.name = n then find? ns inside else find? (n :: ns) rest

/-- The children of the directory at a path, if there is one. -/
def directory? (path : List String) (f : Forest) : Option Forest :=
  match find? path f with
  | some (.folder inside) => some inside
  | _ => none

/-- Takes the node at a path away, with all that is in it. -/
def remove : List String → Forest → Forest
  | [], f => f
  | _ :: _, nil => nil
  | n :: ns, file e rest =>
    if e.name = n then (if ns = [] then rest else file e rest) else file e (remove (n :: ns) rest)
  | n :: ns, folder e inside rest =>
    if e.name = n then (if ns = [] then rest else folder e (remove ns inside) rest)
    else folder e inside (remove (n :: ns) rest)

/-- Puts other children into the directory at a path. -/
def refill (g : Forest) : List String → Forest → Forest
  | [], _ => g
  | _ :: _, nil => nil
  | n :: ns, file e rest => if e.name = n then file e rest else file e (refill g (n :: ns) rest)
  | n :: ns, folder e inside rest =>
    if e.name = n then folder e (refill g ns inside) rest else folder e inside (refill g (n :: ns) rest)

/-- Whether a node can be listed: its name is one, and the time of its last change is an instant. -/
structure Listable (e : Entry) : Prop where
  name : Key.IsName e.name
  modified : ∃ t, Instant.ofMillis e.modified = .ok t

/-- A forest whose nodes can be listed, with different names for siblings. -/
def Proper : Forest → Prop
  | nil => True
  | file e rest => Listable e ∧ e.name ∉ names rest ∧ Proper rest
  | folder e inside rest => Listable e ∧ e.name ∉ names rest ∧ Proper inside ∧ Proper rest

variable {f g h : Forest} {d r ns : List String} {n : String} {e : Entry} {inside rest : Forest}

/-! ### Finding and changing -/

@[simp] theorem find?_here (f : Forest) : find? [] f = some (.folder f) := by cases f <;> rfl

@[simp] theorem directory?_here (f : Forest) : directory? [] f = some f := by rw [directory?, find?_here]

@[simp] theorem directory?_empty : directory? (n :: ns) nil = none := rfl

theorem directory?_file :
    directory? (n :: ns) (file e rest) = if e.name = n then none else directory? (n :: ns) rest := by
  rw [directory?, find?]
  by_cases hn : e.name = n
  · rw [if_pos hn, if_pos hn]; cases ns <;> rfl
  · rw [if_neg hn, if_neg hn]; rfl

theorem directory?_folder :
    directory? (n :: ns) (folder e inside rest) =
      if e.name = n then directory? ns inside else directory? (n :: ns) rest := by
  rw [directory?, find?]
  by_cases hn : e.name = n
  · rw [if_pos hn, if_pos hn]; rfl
  · rw [if_neg hn, if_neg hn]; rfl

@[simp] theorem refill_here (h f : Forest) : refill h [] f = h := by cases f <;> rfl

/-- The way to a directory, name by name, with the children that are found at its end. -/
inductive Leads (g : Forest) : List String → Forest → Prop
  | here : Leads g [] g
  | pastFile {e : Entry} {n : String} {ns : List String} {rest : Forest} :
      e.name ≠ n → Leads g (n :: ns) rest →
      Leads g (n :: ns) (file e rest)
  | into {e : Entry} {ns : List String} {inside rest : Forest} : Leads g ns inside →
      Leads g (e.name :: ns) (folder e inside rest)
  | pastFolder {e : Entry} {n : String} {ns : List String} {inside rest : Forest} : e.name ≠ n →
      Leads g (n :: ns) rest → Leads g (n :: ns) (folder e inside rest)

theorem leads_of_directory? : ∀ {d : List String} {f : Forest}, directory? d f = some g → Leads g d f
  | [], f, hd => by rw [directory?_here] at hd; obtain rfl := Option.some.inj hd; exact .here
  | n :: ns, nil, hd => nomatch hd
  | n :: ns, file e rest, hd => by
    rw [directory?_file] at hd
    by_cases hn : e.name = n
    · rw [if_pos hn] at hd; exact nomatch hd
    · rw [if_neg hn] at hd; exact .pastFile hn (leads_of_directory? hd)
  | n :: ns, folder e inside rest, hd => by
    rw [directory?_folder] at hd
    by_cases hn : e.name = n
    · rw [if_pos hn] at hd; subst hn; exact .into (leads_of_directory? hd)
    · rw [if_neg hn] at hd; exact .pastFolder hn (leads_of_directory? hd)

namespace Leads

/-- What is below a directory is found among its children. -/
theorem find?_append (hd : Leads g d f) (r : List String) : find? (d ++ r) f = find? r g := by
  induction hd with
  | here => rfl
  | pastFile hn _ ih => rw [List.cons_append, find?, if_neg hn]; exact ih
  | into _ ih => rw [List.cons_append, find?, if_pos rfl]; exact ih
  | pastFolder hn _ ih => rw [List.cons_append, find?, if_neg hn]; exact ih

theorem directory?_append (hd : Leads g d f) (r : List String) : directory? (d ++ r) f = directory? r g := by
  rw [directory?, hd.find?_append, directory?]

/-- What is taken away below a directory is taken away from its children. -/
theorem remove_append (hd : Leads g d f) (hr : r ≠ []) : remove (d ++ r) f = refill (remove r g) d f := by
  induction hd with
  | here => rw [refill_here]; rfl
  | pastFile hn _ ih => rw [List.cons_append, remove, refill, if_neg hn, if_neg hn]; exact congrArg _ ih
  | into _ ih =>
    rw [List.cons_append, remove, refill, if_pos rfl, if_pos rfl,
      if_neg fun h => hr (List.append_eq_nil_iff.mp h).2, ih]
  | pastFolder hn _ ih => rw [List.cons_append, remove, refill, if_neg hn, if_neg hn]; exact congrArg _ ih

/-- What is put into a directory is found there. -/
theorem refill (hd : Leads g d f) (h : Forest) : Leads h d (refill h d f) := by
  induction hd with
  | here => rw [refill_here]; exact .here
  | pastFile hn _ ih => rw [Forest.refill, if_neg hn]; exact .pastFile hn ih
  | into _ ih => rw [Forest.refill, if_pos rfl]; exact .into ih
  | pastFolder hn _ ih => rw [Forest.refill, if_neg hn]; exact .pastFolder hn ih

theorem refill_refill (hd : Leads g d f) (h k : Forest) :
    Forest.refill k d (Forest.refill h d f) = Forest.refill k d f := by
  induction hd with
  | here => rw [refill_here, refill_here]
  | pastFile hn _ ih => rw [Forest.refill, Forest.refill, if_neg hn, if_neg hn, Forest.refill, if_neg hn, ih]
  | into _ ih => rw [Forest.refill, Forest.refill, if_pos rfl, if_pos rfl, Forest.refill, if_pos rfl, ih]
  | pastFolder hn _ ih =>
    rw [Forest.refill, Forest.refill, if_neg hn, if_neg hn, Forest.refill, if_neg hn, ih]

theorem refill_self (hd : Leads g d f) : Forest.refill g d f = f := by
  induction hd with
  | here => rw [refill_here]
  | pastFile hn _ ih => rw [Forest.refill, if_neg hn, ih]
  | into _ ih => rw [Forest.refill, if_pos rfl, ih]
  | pastFolder hn _ ih => rw [Forest.refill, if_neg hn, ih]

theorem proper (hd : Leads g d f) (hf : f.Proper) : g.Proper := by
  induction hd with
  | here => exact hf
  | pastFile _ _ ih => exact ih hf.2.2
  | into _ ih => exact ih hf.2.2.1
  | pastFolder _ _ ih => exact ih hf.2.2.2

/-- All names on the way are names of nodes. -/
theorem isName (hd : Leads g d f) (hf : f.Proper) : ∀ n ∈ d, Key.IsName n := by
  induction hd with
  | here => exact nofun
  | pastFile _ _ ih => exact ih hf.2.2
  | into _ ih => exact List.forall_mem_cons.mpr ⟨hf.1.name, ih hf.2.2.1⟩
  | pastFolder _ _ ih => exact ih hf.2.2.2

theorem head_mem_names (hd : Leads g d f) (hne : d ≠ []) : ∃ n ∈ names f, d.head? = some n := by
  induction hd with
  | here => exact absurd rfl hne
  | pastFile _ _ ih =>
    obtain ⟨n, hn, heq⟩ := ih hne
    exact ⟨n, List.mem_cons_of_mem _ hn, heq⟩
  | into _ _ => exact ⟨_, List.mem_cons_self, rfl⟩
  | pastFolder _ _ ih =>
    obtain ⟨n, hn, heq⟩ := ih hne
    exact ⟨n, List.mem_cons_of_mem _ hn, heq⟩

end Leads

/-- A sibling with another name does not stand in the way of the ones behind it. -/
theorem directory?_file_of_rest (he : e.name ∉ names rest) (hne : r ≠ []) (hd : directory? r rest = some g) :
    directory? r (file e rest) = some g := by
  obtain ⟨n, ns, rfl⟩ := List.exists_cons_of_ne_nil hne
  obtain ⟨_, hn, heq⟩ := (leads_of_directory? hd).head_mem_names hne
  obtain rfl := Option.some.inj heq
  rw [directory?_file, if_neg (by rintro rfl; exact he hn), hd]

theorem directory?_folder_of_rest (he : e.name ∉ names rest) (hne : r ≠ [])
    (hd : directory? r rest = some g) : directory? r (folder e inside rest) = some g := by
  obtain ⟨n, ns, rfl⟩ := List.exists_cons_of_ne_nil hne
  obtain ⟨_, hn, heq⟩ := (leads_of_directory? hd).head_mem_names hne
  obtain rfl := Option.some.inj heq
  rw [directory?_folder, if_neg (by rintro rfl; exact he hn), hd]

/-! ### Taking leaves away -/

theorem head_mem_names : ∀ {f : Forest} {r : List String}, r ∈ paths f → ∃ n ns, r = n :: ns ∧ n ∈ names f
  | file e rest, r, hr => by
    rcases List.mem_cons.mp hr with rfl | hr
    · exact ⟨_, _, rfl, List.mem_cons_self⟩
    · obtain ⟨n, ns, rfl, hn⟩ := head_mem_names hr
      exact ⟨n, ns, rfl, List.mem_cons_of_mem _ hn⟩
  | folder e inside rest, r, hr => by
    rcases List.mem_append.mp hr with hr | hr
    · rcases List.mem_cons.mp hr with rfl | hr
      · exact ⟨_, _, rfl, List.mem_cons_self⟩
      · obtain ⟨ns, -, rfl⟩ := List.mem_map.mp hr
        exact ⟨_, ns, rfl, List.mem_cons_self⟩
    · obtain ⟨n, ns, rfl, hn⟩ := head_mem_names hr
      exact ⟨n, ns, rfl, List.mem_cons_of_mem _ hn⟩

theorem Proper.isName : ∀ {f : Forest}, Proper f → ∀ r ∈ paths f, ∀ n ∈ r, Key.IsName n
  | .nil, _, _, hr => nomatch hr
  | .file e rest, hf, r, hr => by
    rcases List.mem_cons.mp hr with rfl | hr
    · exact List.forall_mem_singleton.mpr hf.1.name
    · exact hf.2.2.isName r hr
  | .folder e inside rest, hf, r, hr => by
    rcases List.mem_append.mp hr with hr | hr
    · rcases List.mem_cons.mp hr with rfl | hr
      · exact List.forall_mem_singleton.mpr hf.1.name
      · obtain ⟨ns, hns, rfl⟩ := List.mem_map.mp hr
        exact List.forall_mem_cons.mpr ⟨hf.1.name, hf.2.2.1.isName ns hns⟩
    · exact hf.2.2.2.isName r hr

theorem eq_nil_of_paths : ∀ {f : Forest}, paths f = [] → f = nil
  | nil, _ => rfl

/-- The way to a file or to an empty directory. -/
inductive Leaf : List String → Forest → Prop
  | file {e : Entry} {rest : Forest} : Leaf [e.name] (file e rest)
  | folder {e : Entry} {rest : Forest} : Leaf [e.name] (folder e nil rest)
  | pastFile {e : Entry} {n : String} {ns : List String} {rest : Forest} : e.name ≠ n → Leaf (n :: ns) rest →
      Leaf (n :: ns) (.file e rest)
  | into {e : Entry} {n : String} {ns : List String} {inside rest : Forest} : Leaf (n :: ns) inside →
      Leaf (e.name :: n :: ns) (.folder e inside rest)
  | pastFolder {e : Entry} {n : String} {ns : List String} {inside rest : Forest} : e.name ≠ n →
      Leaf (n :: ns) rest → Leaf (n :: ns) (.folder e inside rest)

/-- A node whose path goes on in no other path is a leaf. -/
theorem Proper.leaf : ∀ {f : Forest} {r : List String}, Proper f → r ∈ paths f →
    (∀ x ∈ paths f, r <+: x → x = r) → Leaf r f
  | .file e rest, r, hf, hr, hleaf => by
    rcases List.mem_cons.mp hr with rfl | hr
    · exact .file
    obtain ⟨n, ns, rfl, hn⟩ := head_mem_names hr
    have hne : e.name ≠ n := fun h => hf.2.1 (h ▸ hn)
    exact .pastFile hne (hf.2.2.leaf hr fun x hx => hleaf x (List.mem_cons_of_mem _ hx))
  | .folder e inside rest, r, hf, hr, hleaf => by
    obtain ⟨-, hnames, hinside, hrest⟩ := hf
    rcases List.mem_append.mp hr with hr | hr
    · rcases List.mem_cons.mp hr with rfl | hr
      · -- whatever is in the folder has a path that goes on
        have hempty : paths inside = [] := by
          refine List.eq_nil_iff_forall_not_mem.mpr fun x hx => ?_
          obtain ⟨n, ns, rfl, -⟩ := head_mem_names hx
          have hin : e.name :: n :: ns ∈ paths (.folder e inside rest) :=
            List.mem_append_left _ (List.mem_cons_of_mem _ (List.mem_map_of_mem hx))
          exact nomatch hleaf _ hin (List.prefix_append [e.name] (n :: ns))
        rw [eq_nil_of_paths hempty]; exact .folder
      · obtain ⟨ns, hns, rfl⟩ := List.mem_map.mp hr
        obtain ⟨n, ns, rfl, -⟩ := head_mem_names hns
        refine .into (hinside.leaf hns fun x hx hp => ?_)
        have hin : e.name :: x ∈ paths (.folder e inside rest) :=
          List.mem_append_left _ (List.mem_cons_of_mem _ (List.mem_map_of_mem hx))
        exact (List.cons.inj (hleaf _ hin (List.cons_prefix_cons.mpr ⟨rfl, hp⟩))).2
    · obtain ⟨n, ns, rfl, hn⟩ := head_mem_names hr
      have hne : e.name ≠ n := fun h => hnames (h ▸ hn)
      exact .pastFolder hne (hrest.leaf hr fun x hx => hleaf x (List.mem_append_right _ hx))

namespace Leaf

theorem ne_nil (h : Leaf r f) : r ≠ [] := by cases h <;> exact List.cons_ne_nil _ _

theorem find? (h : Leaf r f) : Forest.find? r f = some .file ∨ Forest.find? r f = some (.folder nil) := by
  induction h with
  | file => left; rw [Forest.find?, if_pos rfl, if_pos rfl]
  | folder => right; rw [Forest.find?, if_pos rfl, find?_here]
  | pastFile hn _ ih => rw [Forest.find?, if_neg hn]; exact ih
  | into _ ih => rw [Forest.find?, if_pos rfl]; exact ih
  | pastFolder hn _ ih => rw [Forest.find?, if_neg hn]; exact ih

theorem names_remove (h : Leaf r f) : ∀ n ∈ names (remove r f), n ∈ names f := by
  induction h with
  | file => intro n hn; rw [remove, if_pos rfl, if_pos rfl] at hn; exact List.mem_cons_of_mem _ hn
  | folder => intro n hn; rw [remove, if_pos rfl, if_pos rfl] at hn; exact List.mem_cons_of_mem _ hn
  | pastFile hn _ ih =>
    rw [remove, if_neg hn]
    exact List.forall_mem_cons.mpr ⟨List.mem_cons_self, fun n h => List.mem_cons_of_mem _ (ih n h)⟩
  | into _ _ => intro n hn; rw [remove, if_pos rfl, if_neg (List.cons_ne_nil _ _)] at hn; exact hn
  | pastFolder hn _ ih =>
    rw [remove, if_neg hn]
    exact List.forall_mem_cons.mpr ⟨List.mem_cons_self, fun n h => List.mem_cons_of_mem _ (ih n h)⟩

theorem proper (h : Leaf r f) (hf : f.Proper) : (remove r f).Proper := by
  induction h with
  | file => rw [remove, if_pos rfl, if_pos rfl]; exact hf.2.2
  | folder => rw [remove, if_pos rfl, if_pos rfl]; exact hf.2.2.2
  | pastFile hn h ih =>
    rw [remove, if_neg hn]; exact ⟨hf.1, fun hin => hf.2.1 (h.names_remove _ hin), ih hf.2.2⟩
  | into _ ih =>
    rw [remove, if_pos rfl, if_neg (List.cons_ne_nil _ _)]; exact ⟨hf.1, hf.2.1, ih hf.2.2.1, hf.2.2.2⟩
  | pastFolder hn h ih =>
    rw [remove, if_neg hn]; exact ⟨hf.1, fun hin => hf.2.1 (h.names_remove _ hin), hf.2.2.1, ih hf.2.2.2⟩

/-- Taking a leaf away takes away its path and no other one. -/
theorem paths_perm (h : Leaf r f) : (paths f).Perm (r :: paths (remove r f)) := by
  induction h with
  | file => rw [remove, if_pos rfl, if_pos rfl]; exact .refl _
  | folder => rw [remove, if_pos rfl, if_pos rfl]; exact .refl _
  | pastFile hn _ ih => rw [remove, if_neg hn]; exact (ih.cons _).trans (.swap _ _ _)
  | into _ ih =>
    rw [remove, if_pos rfl, if_neg (List.cons_ne_nil _ _)]
    exact (((ih.map _).cons _).append_right _).trans (.swap _ _ _)
  | pastFolder hn _ ih =>
    rw [remove, if_neg hn]
    exact (ih.append_left _).trans List.perm_middle

end Leaf

end Forest

end LakeStore
