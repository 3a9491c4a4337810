import LakeStore.Proofs.Deletion
import LakeStore.Proofs.Subtree

/-!
How a directory is emptied.

A flat listing gives one key for each node below a directory. Deletions in the order of these keys delete
what is in a directory before the directory itself, for the way to it is shorter and its key less deep. So
every deletion finds a file or an empty directory, and after the last of them nothing is left.
-/

namespace LakeStore.Backend

open Dialogue
open Forest (Leads Leaf Proper)
open Remote (Request Response)

/-- What a remote does that keeps a tree: it tells the children of a directory, it deletes files and empty
directories, it says that there is nothing to delete at a path that does not exist, and it fails to delete a
directory that is not empty. Anything may happen upon a request of another kind. -/
inductive Keeps : Request → Forest → Except Fault Response → Forest → Prop
  | children {q : Request} {tree : Forest} {answer : Except Fault Response} : q.operation = .listStatus →
      (∀ f, tree.directory? (Key.segments q.path) = some f → told answer = .ok f.statuses) →
      Keeps q tree answer tree
  | deleted {q : Request} {tree : Forest} {answer : Except Fault Response} : q.operation = .delete →
      tree.find? (Key.segments q.path) = some .file ∨ tree.find? (Key.segments q.path) = some (.folder .nil) →
      effect answer = .ok true → Keeps q tree answer (tree.remove (Key.segments q.path))
  | missing {q : Request} {tree : Forest} {answer : Except Fault Response} : q.operation = .delete →
      tree.find? (Key.segments q.path) = none → effect answer = .ok false → Keeps q tree answer tree
  | refused {q : Request} {tree inside : Forest} {answer : Except Fault Response} {fault : Fault} :
      q.operation = .delete → tree.find? (Key.segments q.path) = some (.folder inside) → inside ≠ .nil →
      effect answer = .error fault → Keeps q tree answer tree
  | other {q : Request} {tree left : Forest} {answer : Except Fault Response} : q.operation ≠ .listStatus →
      q.operation ≠ .delete → Keeps q tree answer left

variable {tree left f g : Forest} {place path : List String} {q : Request} {answer : Except Fault Response}

/-- The deletion of a leaf below a directory takes effect. -/
theorem Keeps.leaf (h : Keeps q tree answer left) (hq : q.operation = .delete)
    (hpath : Key.segments q.path = place ++ path) (hg : Leads g place tree) (hleaf : Leaf path g) :
    effect answer = .ok true ∧ left = Forest.refill (g.remove path) place tree := by
  have hfind := hleaf.find?
  rw [← hg.find?_append path, ← hpath] at hfind
  cases h with
  | children hlist _ => rw [hq] at hlist; exact nomatch hlist
  | deleted _ _ heffect => rw [hpath, hg.remove_append hleaf.ne_nil]; exact ⟨heffect, rfl⟩
  | missing _ hnone _ => rw [hnone] at hfind; exact nomatch hfind
  | refused _ hfull hne _ =>
    rcases hfind with hfile | hempty
    · rw [hfull] at hfile; exact nomatch hfile
    · rw [hfull] at hempty; exact absurd (Forest.Node.folder.inj (Option.some.inj hempty)) hne
  | other _ hno => exact absurd hq hno

/-- The children of a directory are told, and nothing happens. -/
theorem Keeps.told_children (h : Keeps q tree answer left) (hq : q.operation = .listStatus)
    (hg : tree.directory? (Key.segments q.path) = some g) : told answer = .ok g.statuses ∧ left = tree := by
  cases h with
  | children _ htold => exact ⟨htold g hg, rfl⟩
  | deleted hdelete _ _ => rw [hq] at hdelete; exact nomatch hdelete
  | missing hdelete _ _ => rw [hq] at hdelete; exact nomatch hdelete
  | refused hdelete _ _ _ => rw [hq] at hdelete; exact nomatch hdelete
  | other hno _ => exact absurd hq hno

variable (b : Backend) {keys : List String} {r : Except Fault Unit}

/-- Where the deletion of a key leads. -/
def target (key : String) : List String := Key.segments (b.deletion key).path

theorem target_stem (key : String) : b.target key = Key.segments (b.path (Key.stem key)) := rfl

/-- Deletions of all nodes below a directory, none before one below it, empty the directory. -/
theorem runs_deletions (hg : Leads g place tree) (hproper : g.Proper)
    (hall : (keys.map b.target).Perm (g.paths.map (place ++ ·)))
    (horder : keys.Pairwise fun k l => b.target k <+: b.target l → b.target l = b.target k)
    (h : Runs (P := Remote.protocol) Keeps (keys.forM b.deleteKey).run tree r left) :
    r = .ok () ∧ left = Forest.refill .nil place tree := by
  induction keys generalizing tree g with
  | nil =>
    obtain ⟨rfl, rfl⟩ := runs_done_iff.mp h
    have hnone : g = .nil := Forest.eq_nil_of_paths (List.map_eq_nil_iff.mp hall.nil_eq.symm)
    rw [← hnone, hg.refill_self]
    exact ⟨rfl, rfl⟩
  | cons k keys ih =>
    obtain ⟨hk, horder⟩ := List.pairwise_cons.mp horder
    obtain ⟨path, hpath, htarget⟩ := List.mem_map.mp (hall.mem_iff.mp List.mem_cons_self)
    -- what is below this node has a key of its own, and that key would have come before
    have hleaf : Leaf path g := hproper.leaf hpath fun x hx hprefix => by
      have hmem : place ++ x ∈ (k :: keys).map b.target := hall.mem_iff.mpr (List.mem_map_of_mem hx)
      rcases List.mem_cons.mp hmem with heq | hmem
      · exact List.append_cancel_left (heq.trans htarget.symm)
      · obtain ⟨l, hl, heq⟩ := List.mem_map.mp hmem
        have hbelow : b.target k <+: b.target l := by
          rw [heq, ← htarget]; exact (List.prefix_append_right_inj place).mpr hprefix
        have hsame := hk l hl hbelow
        rw [heq, ← htarget] at hsame
        exact List.append_cancel_left hsame
    have hrest : (keys.map b.target).Perm ((g.remove path).paths.map (place ++ ·)) := by
      have hperm := hall.trans (hleaf.paths_perm.map (place ++ ·))
      rw [List.map_cons, List.map_cons, htarget] at hperm
      exact hperm.cons_inv
    have hdelete : ∀ {answer t}, Keeps (b.deletion k) tree answer t →
        effect answer = .ok true ∧ t = Forest.refill (g.remove path) place tree :=
      fun hkeeps => hkeeps.leaf rfl htarget.symm hg hleaf
    rcases runs_run_bind.mp h with ⟨_, t, hfirst, hlast⟩ | ⟨e, hfirst, -⟩
    · obtain ⟨answer, hkeeps, -⟩ := b.runs_deleteKey.mp hfirst
      obtain ⟨-, rfl⟩ := hdelete hkeeps
      obtain ⟨hr, hleft⟩ := ih (hg.refill _) (hleaf.proper hproper) hrest horder hlast
      rw [hg.refill_refill] at hleft
      exact ⟨hr, hleft⟩
    · obtain ⟨answer, hkeeps, he⟩ := b.runs_deleteKey.mp hfirst
      rw [(hdelete hkeeps).1] at he
      exact nomatch he

/-! ### The keys of a listing -/

variable {b} {d k : String}

theorem stem_bucket {raw : String} (hb : b.bucket = Account.trimBucket raw) :
    Key.stem b.bucket = b.bucket := by
  rw [hb]; exact Key.stem_stem _

theorem segments_path (hb : Key.stem b.bucket = b.bucket) (d : String) (hpath : ∀ n ∈ path, Key.IsName n) :
    Key.segments (b.path (Key.descendant (Key.stem d) path)) = Key.segments (b.path d) ++ path := by
  rw [Backend.path, Backend.path, Key.segments_remotePath_descendant hb (Key.stem_stem d) hpath,
    Key.segments_remotePath_stem]

/-- Whether some answer tells the children of each directory. -/
def Tellable (f : Forest) : Prop :=
  ∀ path g, f.directory? path = some g → ∃ answer, told answer = .ok g.statuses

/-- The children of a directory are told wherever the directory lies. -/
theorem gives_children (hplace : Key.segments (b.path k) = place) (hg : tree.directory? place = some g)
    {able : Prop} (htold : able → ∃ answer, told answer = .ok g.statuses) :
    Listing.Gives able (fun key s answer t =>
      Runs (P := Remote.protocol) Keeps (b.children key).run s answer t) tree k
      g.statuses where
  given hable := by
    obtain ⟨answer, hanswer⟩ := htold hable
    refine b.runs_children.mpr ⟨answer, .children rfl fun f hf => ?_, hanswer.symm⟩
    obtain rfl : g = f := Option.some.inj (hg.symm.trans (hplace ▸ hf))
    exact hanswer
  only answer t h := by
    obtain ⟨answer, hkeeps, rfl⟩ := b.runs_children.mp h
    have hchildren : tree.directory? (Key.segments (b.childrenRequest k).path) = some g := by
      rw [← hg, ← hplace]; rfl
    exact hkeeps.told_children rfl hchildren

/-- A listing tells of everything below a directory, and changes nothing. -/
theorem runs_list_directory (maxKeys : Option Int) (htree : tree.Proper) (hb : Key.stem b.bucket = b.bucket)
    (hd : tree.directory? (Key.segments (b.path d)) = some f) (hreach : f.folders ≤ b.reach) :
    (Tellable f → Runs (P := Remote.protocol) Keeps (b.list { root := d, maxKeys }).run tree
      (.ok { items := Listing.items (Key.stem d) f }) tree) ∧
    ∀ r left, Runs (P := Remote.protocol) Keeps (b.list { root := d, maxKeys }).run tree r left →
      r = .ok { items := Listing.items (Key.stem d) f } ∧ left = tree := by
  have hleads := Forest.leads_of_directory? hd
  have hproper := hleads.proper htree
  have hroot := gives_children (b := b) rfl hd fun htold : Tellable f => htold [] f f.directory?_here
  have hemits := Listing.emits_walk hproper hreach hroot fun path g _ hg =>
    gives_children (segments_path hb d ((Forest.leads_of_directory? hg).isName hproper))
      ((hleads.directory?_append path).trans hg) fun htold => htold path g hg
  constructor
  · intro htold
    obtain ⟨spent, hwalk⟩ := (hemits maxKeys).1 htold
    exact (b.runs_list (o := { root := d, maxKeys }) rfl).mpr
      ⟨_, _, hwalk, (congrArg Except.ok (Listing.collect_items _)).symm⟩
  · intro r left h
    obtain ⟨rows, spent, hwalk, rfl⟩ := (b.runs_list (o := { root := d, maxKeys }) rfl).mp h
    obtain ⟨hrows, hleft⟩ := (hemits maxKeys).2 _ _ hwalk
    obtain rfl : rows = _ := hrows
    exact ⟨congrArg Except.ok (Listing.collect_items _), hleft⟩

/-- The deletion of a listed key leads where the node is. -/
theorem target_eq (hb : Key.stem b.bucket = b.bucket) (hk : Key.stem k = Key.descendant (Key.stem d) path)
    (hpath : ∀ n ∈ path, Key.IsName n) : b.target k = Key.segments (b.path d) ++ path := by
  rw [target_stem, hk, segments_path hb d hpath]

theorem depth_eq (hk : Key.stem k = Key.descendant (Key.stem d) path) (hpath : ∀ n ∈ path, Key.IsName n)
    (hne : path ≠ []) : Key.depth k = (if Key.stem d = "" then 0 else Key.depth d) + path.length := by
  rw [← Key.depth_stem, hk, Key.depth_descendant (Key.stem_stem d) hpath hne, Key.depth_stem]

/-- The keys of a listing stand for the nodes below a directory, one for each. -/
theorem targets (hb : Key.stem b.bucket = b.bucket) (hproper : f.Proper)
    (hkeys : keys.map Key.stem = f.paths.map (Key.descendant (Key.stem d))) :
    keys.map b.target = f.paths.map (Key.segments (b.path d) ++ ·) := by
  calc keys.map b.target
      = (keys.map Key.stem).map (fun k => Key.segments (b.path k)) := by
        rw [List.map_map]
        exact List.map_congr_left fun k _ => by rw [Function.comp_apply, b.target_stem]
    _ = (f.paths.map (Key.descendant (Key.stem d))).map (fun k => Key.segments (b.path k)) := by rw [hkeys]
    _ = f.paths.map (Key.segments (b.path d) ++ ·) := by
        rw [List.map_map]
        exact List.map_congr_left fun path hpath => by
          rw [Function.comp_apply, segments_path hb d (hproper.isName path hpath)]

/-- In the order of deletions no key stands for a node above that of a later one. -/
theorem targets_order (hb : Key.stem b.bucket = b.bucket) (hproper : f.Proper)
    (hkeys : keys.map Key.stem = f.paths.map (Key.descendant (Key.stem d))) :
    (Key.deletionOrder keys).Pairwise fun k l => b.target k <+: b.target l → b.target l = b.target k := by
  have hnode : ∀ k ∈ Key.deletionOrder keys, ∃ path, b.target k = Key.segments (b.path d) ++ path ∧
      Key.depth k = (if Key.stem d = "" then 0 else Key.depth d) + path.length := by
    intro k hk
    have hmem : Key.stem k ∈ f.paths.map (Key.descendant (Key.stem d)) :=
      hkeys ▸ List.mem_map_of_mem (Key.mem_deletionOrder.mp hk)
    obtain ⟨path, hpath, heq⟩ := List.mem_map.mp hmem
    have hnames := hproper.isName path hpath
    obtain ⟨n, ns, rfl, -⟩ := Forest.head_mem_names hpath
    exact ⟨_, target_eq hb heq.symm hnames, depth_eq heq.symm hnames (List.cons_ne_nil _ _)⟩
  refine (Key.pairwise_deletionOrder keys).imp_of_mem fun {k l} hk hl hkl hprefix => ?_
  obtain ⟨path, htarget, hdepth⟩ := hnode k hk
  obtain ⟨path', htarget', hdepth'⟩ := hnode l hl
  rw [htarget, htarget'] at hprefix ⊢
  have hlength : path'.length ≤ path.length := by
    rcases Key.deletedBy_iff.mp hkl with hlt | ⟨heq, -⟩ <;> omega
  have hsame := ((List.prefix_append_right_inj _).mp hprefix).eq_of_length_le hlength
  rw [hsame]

/-! ### Listing and deleting -/

/-- The answer that a request did not take effect. -/
def untaken : Response where
  operation := .delete
  status := 200
  body := Utf8.encode "\x7b\"boolean\":false\x7d"

theorem effect_untaken : effect (.ok untaken) = .ok false := by decide +kernel

/-- Some answer can be given to every deletion. -/
theorem exists_keeps (tree : Forest) (hq : q.operation = .delete) :
    ∃ answer left, Keeps q tree answer left := by
  cases hfind : tree.find? (Key.segments q.path) with
  | none => exact ⟨_, _, .missing hq hfind effect_untaken⟩
  | some node =>
    cases node with
    | file => exact ⟨_, _, .deleted hq (.inl hfind) effect_taken⟩
    | folder inside =>
      by_cases hne : inside = .nil
      · subst hne; exact ⟨_, _, .deleted hq (.inr hfind) effect_taken⟩
      · have hfails : effect (.error .unfinished) = .error .unfinished := rfl
        exact ⟨_, _, .refused hq hfind hne hfails⟩

theorem exists_deletions (b : Backend) : ∀ (keys : List String) (tree : Forest) (before : List Request),
    ∃ r after, Runs (P := Remote.protocol) (recorded Keeps) (keys.forM b.deleteKey).run (tree, before) r after
  | [], tree, before => ⟨_, _, .done _ _⟩
  | key :: keys, tree, before => by
    obtain ⟨answer, left, hkeeps⟩ := exists_keeps (q := b.deletion key) tree rfl
    have hkey : Runs (P := Remote.protocol) (recorded Keeps) (b.deleteKey key).run (tree, before)
        (deleted key (effect answer)) (left, before ++ [b.deletion key]) :=
      b.runs_deleteKey.mpr ⟨answer, ⟨hkeeps, rfl⟩, rfl⟩
    cases hend : deleted key (effect answer) with
    | error fault => rw [hend] at hkey; exact ⟨_, _, runs_run_bind.mpr (.inr ⟨fault, hkey, rfl⟩)⟩
    | ok _ =>
      rw [hend] at hkey
      obtain ⟨r, after, hrest⟩ := exists_deletions b keys left (before ++ [b.deletion key])
      exact ⟨r, after, runs_run_bind.mpr (.inl ⟨(), _, hkey, hrest⟩)⟩

/-- A flat listing of a directory succeeds and changes nothing, if the remote is able to tell it at all. The
batch that deletes the keys of its items then succeeds; it asks for one deletion for each node below the
directory, and leaves the directory empty and everything else as it was. -/
theorem list_then_deleteAll (maxKeys : Option Int) (htree : tree.Proper)
    (hbucket : ∃ raw, b.bucket = Account.trimBucket raw)
    (hd : tree.directory? (Key.segments (b.path d)) = some f) (hreach : f.folders ≤ b.reach) :
    ∃ listing : Blob.Listing,
      (Tellable f → Runs (P := Remote.protocol) Keeps (b.list { root := d, maxKeys }).run tree
        (.ok listing) tree) ∧
      (∀ r left, Runs (P := Remote.protocol) Keeps (b.list { root := d, maxKeys }).run tree r left →
        r = .ok listing ∧ left = tree) ∧
      (∃ r after, Runs (P := Remote.protocol) (recorded Keeps)
        (b.deleteAll (listing.items.map Blob.Item.key)).run
        (tree, []) r after) ∧
      ∀ r left asked, Runs (P := Remote.protocol) (recorded Keeps)
        (b.deleteAll (listing.items.map Blob.Item.key)).run
          (tree, []) r (left, asked) →
        r = .ok () ∧ left = Forest.refill .nil (Key.segments (b.path d)) tree ∧
          (asked.map fun q => (q.operation, Key.segments q.path)).Perm
            (f.paths.map fun path => (.delete, Key.segments (b.path d) ++ path)) := by
  obtain ⟨raw, hraw⟩ := hbucket
  have hb := stem_bucket hraw
  have hleads := Forest.leads_of_directory? hd
  have hproper := hleads.proper htree
  obtain ⟨hlist, honly⟩ := runs_list_directory maxKeys htree hb hd hreach
  refine ⟨_, hlist, honly, ?_, ?_⟩
  · obtain ⟨r, after, hruns⟩ := exists_deletions b (Key.deletionOrder _) tree []
    exact ⟨r, after, b.runs_deleteAll.mpr hruns⟩
  · intro r left asked hruns
    have hdeletions := b.runs_deleteAll.mp hruns
    have hkeys : ((Listing.items (Key.stem d) f).map Blob.Item.key).map Key.stem =
        f.paths.map (Key.descendant (Key.stem d)) := by
      rw [List.map_map]; exact Listing.stem_items hproper _
    have hall : ((Key.deletionOrder ((Listing.items (Key.stem d) f).map Blob.Item.key)).map b.target).Perm
        (f.paths.map (Key.segments (b.path d) ++ ·)) := by
      rw [← targets hb hproper hkeys]
      exact (Key.perm_deletionOrder _).map _
    obtain ⟨rfl, hleft⟩ :=
      b.runs_deletions hleads hproper hall (targets_order hb hproper hkeys) hdeletions.unrecorded
    refine ⟨rfl, hleft, ?_⟩
    have hasked := b.asked_deletions hdeletions
    rw [List.nil_append] at hasked
    have hpairs := hall.map fun path => (Remote.Operation.delete, path)
    rw [List.map_map, List.map_map] at hpairs
    rw [hasked, List.map_map]
    exact hpairs

/-- The tree of a bucket with a directory that has these children, and a file beside the directory. -/
def outer (inside : Forest) : Forest :=
  .folder { name := "b" } (.folder { name := "d" } inside (.file { name := "z" } .nil)) .nil

theorem tellable_nested : Tellable nested := by
  have houter : told (.ok (telling
      "\x7b\"pathSuffix\":\"e\",\"type\":\"DIRECTORY\"\x7d,\x7b\"pathSuffix\":\"y\"\x7d")) =
        .ok nested.statuses := by
    decide +kernel
  have hinner : told (.ok (telling "\x7b\"pathSuffix\":\"x\"\x7d")) =
      .ok (Forest.file { name := "x" } .nil).statuses := by
    decide +kernel
  intro path g hg
  rcases directory?_nested hg with ⟨-, rfl⟩ | ⟨-, rfl⟩
  · exact ⟨_, houter⟩
  · exact ⟨_, hinner⟩

/-- A directory of two levels is listed and emptied; its sibling stays. -/
theorem list_then_deleteAll_nested :
    ∃ listing asked,
      Runs (P := Remote.protocol) Keeps (list ⟨{ endpoint := "a.b", bucket := "b" }, 1⟩ { root := "/d/" }).run
        (outer nested) (.ok listing) (outer nested) ∧
      Runs (P := Remote.protocol) (recorded Keeps)
        (deleteAll ⟨{ endpoint := "a.b", bucket := "b" }, 1⟩ (listing.items.map Blob.Item.key)).run
        (outer nested, []) (.ok ()) (outer .nil, asked) ∧
      (asked.map fun q => (q.operation, Key.segments q.path)).Perm
        [(.delete, ["b", "d", "e"]), (.delete, ["b", "d", "e", "x"]), (.delete, ["b", "d", "y"])] := by
  have hstart : ∃ t, Instant.ofMillis 0 = .ok t := ⟨⟨0⟩, by decide +kernel⟩
  have hlistable : ∀ n, Key.IsName n → Forest.Listable { name := n } := fun n hn => ⟨hn, hstart⟩
  have htree : (outer nested).Proper := by
    simp only [outer, nested, Forest.Proper, Forest.names]
    have hb := hlistable "b" (by decide)
    have hd := hlistable "d" (by decide)
    have he := hlistable "e" (by decide)
    have hx := hlistable "x" (by decide)
    have hy := hlistable "y" (by decide)
    have hz := hlistable "z" (by decide)
    exact ⟨hb, by decide,
      ⟨hd, by decide, ⟨he, by decide, ⟨hx, by decide, trivial⟩, hy, by decide, trivial⟩, hz,
      by decide, trivial⟩, trivial⟩
  obtain ⟨listing, hlist, -, ⟨r, ⟨left, asked⟩, hruns⟩, hall⟩ :=
    list_then_deleteAll (b := ⟨{ endpoint := "a.b", bucket := "b" }, 1⟩) (d := "/d/") (f := nested) none htree
      ⟨"b", by decide⟩ (by decide) (by decide)
  obtain ⟨rfl, rfl, hperm⟩ := hall r left asked hruns
  exact ⟨listing, asked, hlist tellable_nested, hruns, hperm⟩

end LakeStore.Backend
