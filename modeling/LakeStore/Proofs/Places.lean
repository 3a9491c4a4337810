import Mathlib.Data.List.Nodup
import LakeStore.Proofs.Tree

/-!
The order of the nodes of a directory tree.

`places` walks a forest and comes to each node once: to a directory right before everything in it, and to the
children of one directory in the order in which they are listed.
-/

namespace LakeStore.Forest

/-- A node, with the names on the way to it. -/
structure Place where
  path : List String
  entry : Entry
  isDirectory : Bool
  deriving DecidableEq, Repr

/-- The same node, seen from where the way starts earlier. -/
def Place.under (way : List String) (x : Place) : Place := { x with path := way ++ x.path }

/-- Whether there is a node in a forest, at any depth. -/
inductive Holds : Forest → Place → Prop
  | file {e : Entry} {rest : Forest} : Holds (.file e rest) ⟨[e.name], e, false⟩
  | folder {e : Entry} {inside rest : Forest} : Holds (.folder e inside rest) ⟨[e.name], e, true⟩
  | inside {e : Entry} {inside rest : Forest} {x : Place} : Holds inside x →
      Holds (.folder e inside rest) (x.under [e.name])
  | pastFile {e : Entry} {rest : Forest} {x : Place} : Holds rest x → Holds (.file e rest) x
  | pastFolder {e : Entry} {inside rest : Forest} {x : Place} : Holds rest x → Holds (.folder e inside rest) x

/-- All nodes, each directory right before what is in it. -/
def places : Forest → List Place
  | nil => []
  | file e rest => ⟨[e.name], e, false⟩ :: places rest
  | folder e inside rest => ⟨[e.name], e, true⟩ :: (places inside).map (Place.under [e.name]) ++ places rest

/-- The paths of all folders. -/
def directories (f : Forest) : List (List String) := (f.places.filter Place.isDirectory).map Place.path

/-- Whether some places are all nodes of a forest in the order of a walk: no path occurs twice, all nodes
occur, a directory stands right before everything below it, and siblings keep their order. -/
structure Enumerates (f : Forest) (xs : List Place) : Prop where
  nodup : (xs.map Place.path).Nodup
  mem_iff : ∀ x, x ∈ xs ↔ f.Holds x
  subtree : ∀ r g, r ≠ [] → f.directory? r = some g → ∃ e before below after,
    xs = before ++ ⟨r, e, true⟩ :: below ++ after ∧ ∀ x, x ∈ below ↔ ∃ y, g.Holds y ∧ x = y.under r
  siblings : ∀ r g, f.directory? r = some g → (g.names.map fun n => r ++ [n]).Sublist (xs.map Place.path)

variable {f g inside rest : Forest} {e : Entry} {r : List String} {x : Place}

theorem Place.under_under (way more : List String) (x : Place) :
    (x.under more).under way = x.under (way ++ more) := by
  rw [under, under, under, List.append_assoc]

theorem mem_places : x ∈ f.places ↔ f.Holds x := by
  constructor
  · intro h
    induction f generalizing x with
    | nil => cases h
    | file e rest ih =>
      rcases List.mem_cons.mp h with rfl | h
      · exact .file
      · exact .pastFile (ih h)
    | folder e inside rest ihi ihr =>
      rcases List.mem_append.mp h with h | h
      · rcases List.mem_cons.mp h with rfl | h
        · exact .folder
        · obtain ⟨y, hy, rfl⟩ := List.mem_map.mp h
          exact .inside (ihi hy)
      · exact .pastFolder (ihr h)
  · intro h
    induction h with
    | file => exact List.mem_cons_self
    | folder => exact List.mem_append_left _ List.mem_cons_self
    | inside _ ih => exact List.mem_append_left _ (List.mem_cons_of_mem _ (List.mem_map_of_mem ih))
    | pastFile _ ih => exact List.mem_cons_of_mem _ ih
    | pastFolder _ ih => exact List.mem_append_right _ ih

theorem map_path_places (f : Forest) : f.places.map Place.path = f.paths := by
  induction f with
  | nil => rfl
  | file e rest ih => rw [places, paths, List.map_cons, ih]
  | folder e inside rest ihi ihr =>
    rw [places, paths, List.map_append, List.map_cons, ihr, ← ihi, List.map_map, List.map_map]; rfl

/-! ### Folders -/

@[simp] theorem directories_nil : nil.directories = [] := rfl

@[simp] theorem directories_file : (file e rest).directories = rest.directories := rfl

@[simp] theorem directories_folder :
    (folder e inside rest).directories = [e.name] :: inside.directories.map (e.name :: ·) ++
      rest.directories := by
  have hfilter : ((inside.places.map (Place.under [e.name])).filter Place.isDirectory).map Place.path =
      inside.directories.map (e.name :: ·) := by
    rw [List.filter_map, directories, List.map_map, List.map_map]; rfl
  rw [directories, places, List.filter_append, List.map_append, List.filter_cons_of_pos (by rfl),
    List.map_cons, hfilter]
  rfl

theorem length_directories (f : Forest) : f.directories.length = f.folders := by
  induction f with
  | nil => rfl
  | file e rest ih => rw [directories_file, ih, folders]
  | folder e inside rest ihi ihr =>
    rw [directories_folder, folders, List.length_append, List.length_cons, List.length_map, ihi, ihr]; omega

theorem mem_paths_of_directories (hr : r ∈ f.directories) : r ∈ f.paths := by
  obtain ⟨x, hx, rfl⟩ := List.mem_map.mp hr
  exact map_path_places f ▸ List.mem_map_of_mem (List.mem_of_mem_filter hx)

theorem Proper.isName_of_directories (hf : f.Proper) :
    ∀ r ∈ f.directories, ∀ n ∈ r, Key.IsName n := fun r hr =>
  hf.isName r (mem_paths_of_directories hr)

theorem ne_nil_of_directories (hr : r ∈ f.directories) : r ≠ [] := by
  obtain ⟨n, ns, rfl, -⟩ := head_mem_names (mem_paths_of_directories hr)
  exact List.cons_ne_nil n ns

/-- There is a directory at the path of each folder. -/
theorem Proper.exists_directory (hf : f.Proper) : ∀ r ∈ f.directories, ∃ g, f.directory? r = some g := by
  induction f with
  | nil => intro r hr; cases hr
  | file e rest ih =>
    intro r hr
    obtain ⟨g, hg⟩ := ih hf.2.2 r hr
    exact ⟨g, directory?_file_of_rest hf.2.1 (ne_nil_of_directories hr) hg⟩
  | folder e inside rest ihi ihr =>
    obtain ⟨-, hnames, hinside, hrest⟩ := hf
    intro r hr
    have hne := ne_nil_of_directories hr
    rw [directories_folder] at hr
    rcases List.mem_append.mp hr with hr | hr
    · rcases List.mem_cons.mp hr with rfl | hr
      · exact ⟨inside, by rw [directory?_folder, if_pos rfl, directory?_here]⟩
      · obtain ⟨ns, hns, rfl⟩ := List.mem_map.mp hr
        obtain ⟨g, hg⟩ := ihi hinside ns hns
        exact ⟨g, by rw [directory?_folder, if_pos rfl, hg]⟩
    · obtain ⟨g, hg⟩ := ihr hrest r hr
      exact ⟨g, directory?_folder_of_rest hnames hne hg⟩

/-! ### The order -/

/-- A directory stands right before everything below it. -/
theorem Leads.places_eq (h : Leads g r f) (hne : r ≠ []) :
    ∃ e before after, f.places = before ++ ⟨r, e, true⟩ :: g.places.map (Place.under r) ++ after := by
  induction h with
  | here => exact absurd rfl hne
  | pastFile _ _ ih =>
    obtain ⟨e, before, after, heq⟩ := ih hne
    exact ⟨e, _ :: before, after, by rw [places, heq]; rfl⟩
  | @into e ns inside rest h ih =>
    by_cases hns : ns = []
    · subst hns
      cases h
      exact ⟨e, [], rest.places, rfl⟩
    · obtain ⟨e', before, after, heq⟩ := ih hns
      refine ⟨e', ⟨[e.name], e, true⟩ :: before.map (Place.under [e.name]),
        after.map (Place.under [e.name]) ++ rest.places, ?_⟩
      have hunder : (g.places.map (Place.under ns)).map (Place.under [e.name]) =
          g.places.map (Place.under (e.name :: ns)) := by
        rw [List.map_map]; exact List.map_congr_left fun x _ => x.under_under [e.name] ns
      rw [places, heq, List.map_append, List.map_append, List.map_cons, hunder]
      simp only [List.append_assoc, List.cons_append]
      rfl
  | @pastFolder e n ns inside rest _ _ ih =>
    obtain ⟨e', before, after, heq⟩ := ih hne
    refine ⟨e', ⟨[e.name], e, true⟩ :: inside.places.map (Place.under [e.name]) ++ before, after, ?_⟩
    rw [places, heq]
    simp only [List.append_assoc, List.cons_append]

theorem names_sublist (f : Forest) : (f.names.map fun n => [n]).Sublist f.paths := by
  induction f with
  | nil => exact .slnil
  | file e rest ih => exact ih.cons_cons [e.name]
  | folder e inside rest _ ihr => exact (ihr.trans (List.sublist_append_right _ _)).cons_cons [e.name]

/-- The children of a directory keep their order. -/
theorem Leads.names_sublist (h : Leads g r f) : (g.names.map fun n => r ++ [n]).Sublist f.paths := by
  by_cases hne : r = []
  · subst hne
    cases h
    exact f.names_sublist
  · obtain ⟨e, before, after, heq⟩ := h.places_eq hne
    have hbelow : (g.paths.map (r ++ ·)).Sublist f.paths := by
      have hpaths : (g.places.map (Place.under r)).map Place.path = g.paths.map (r ++ ·) := by
        rw [← map_path_places, List.map_map, List.map_map]; rfl
      rw [← map_path_places f, heq, List.map_append, List.map_append, List.map_cons, hpaths]
      exact ((List.sublist_cons_self _ _).trans (List.sublist_append_right _ _)).trans
        (List.sublist_append_left _ _)
    have hnames : ((g.names.map fun n => [n]).map (r ++ ·)).Sublist (g.paths.map (r ++ ·)) :=
      g.names_sublist.map _
    rw [List.map_map] at hnames
    exact hnames.trans hbelow

/-- No two nodes have the same path. -/
theorem Proper.nodup_paths : ∀ {f : Forest}, f.Proper → f.paths.Nodup
  | nil, _ => .nil
  | file e rest, hf => by
    refine List.nodup_cons.mpr ⟨fun hmem => ?_, hf.2.2.nodup_paths⟩
    obtain ⟨n, ns, heq, hn⟩ := head_mem_names hmem
    exact hf.2.1 ((List.cons.inj heq).1 ▸ hn)
  | folder e inside rest, hf => by
    obtain ⟨-, hnames, hinside, hrest⟩ := hf
    refine List.nodup_append.mpr ⟨List.nodup_cons.mpr ⟨fun hmem => ?_, ?_⟩, hrest.nodup_paths, ?_⟩
    · obtain ⟨ns, hns, heq⟩ := List.mem_map.mp hmem
      obtain ⟨n, ns, rfl, -⟩ := head_mem_names hns
      exact nomatch (List.cons.inj heq).2
    · exact hinside.nodup_paths.map List.cons_injective
    · -- what is in the folder starts with its name, and what comes after starts with another one
      rintro _ hleft r hright rfl
      obtain ⟨n, ns, rfl, hn⟩ := head_mem_names hright
      rcases List.mem_cons.mp hleft with heq | hleft
      · exact hnames ((List.cons.inj heq).1 ▸ hn)
      · obtain ⟨ns, -, heq⟩ := List.mem_map.mp hleft
        exact hnames ((List.cons.inj heq).1 ▸ hn)

theorem Proper.enumerates_places (hf : f.Proper) : f.Enumerates f.places where
  nodup := map_path_places f ▸ hf.nodup_paths
  mem_iff _ := mem_places
  subtree r g hne hg := by
    obtain ⟨e, before, after, heq⟩ := (leads_of_directory? hg).places_eq hne
    refine ⟨e, before, _, after, heq, fun x => ?_⟩
    constructor
    · intro hx
      obtain ⟨y, hy, rfl⟩ := List.mem_map.mp hx
      exact ⟨y, mem_places.mp hy, rfl⟩
    · rintro ⟨y, hy, rfl⟩
      exact List.mem_map_of_mem (mem_places.mpr hy)
  siblings r g hg := map_path_places f ▸ (leads_of_directory? hg).names_sublist

end LakeStore.Forest
