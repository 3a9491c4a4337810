import Mathlib.Data.List.Rotate
import LakeStore.Proofs.Subtree

/-!
Delimited listings of a directory and of all folders that they return.

A client that goes down level by level has some folders pending. What it has gathered and what it will
gather below the folders that are pending are together the same items, whichever folder comes next. A
delimited listing shows the directory itself and a folder for each directory in it, where a flat listing
shows an item for each directory in it. So both come to the same keys, but for that of the directory itself,
and to the same items of files.
-/

namespace LakeStore.Listing

open Remote (FileStatus)

variable {tree f : Forest} {way : List String}

/-! ### One level -/

/-- A directory, by the way to it, with its children. -/
abbrev Door := List String × Forest

/-- The key by which a delimited listing returns the directory at the end of a way. -/
def doorKey (way : List String) : String := Key.placeholder (Key.descendant "" way)

/-- The directories in a directory. -/
def doors (way : List String) : Forest → List Door
  | .nil => []
  | .file _ rest => doors way rest
  | .folder e inside rest => (way ++ [e.name], inside) :: doors way rest

/-- The items of the files in a directory. -/
def files (parent : String) : Forest → List Blob.Item
  | .nil => []
  | .file e rest => item (Key.child parent e.name) e :: files parent rest
  | .folder _ _ rest => files parent rest

/-- What a delimited listing of a directory returns. -/
def level (door : Door) : Blob.Listing where
  folders := (doors door.1 door.2).map fun inner => ⟨doorKey inner.1⟩
  items := { key := doorKey door.1 } :: files (Key.descendant "" door.1) door.2

theorem collect_item (i : Blob.Item) (rows : List Row) :
    collect none (.item i :: rows) = { collect none rows with items := i :: (collect none rows).items } := rfl

theorem collect_folder (folder : Blob.Folder) (rows : List Row) :
    collect none (.folder folder :: rows) =
      { collect none rows with folders := folder :: (collect none rows).folders } := rfl

/-- No child of a directory is entered. -/
theorem visits_children (fetch : String → Except Fault (List FileStatus)) (hf : f.Proper)
    (way : List String) :
    ∃ rows, Visits fetch false (visits (Key.descendant "" way) f) [] (.ok rows) ∧ collect none rows =
      { folders := (doors way f).map fun inner => ⟨doorKey inner.1⟩,
        items := files (Key.descendant "" way) f } := by
  induction f with
  | nil => exact ⟨[], .done, rfl⟩
  | file e rest ih =>
    obtain ⟨rows, hvisits, hrows⟩ := ih hf.2.2
    exact ⟨_, .passed (childRow_file hf.1 false _) rfl hvisits, by rw [collect_item, hrows]; rfl⟩
  | folder e inside rest _ ih =>
    obtain ⟨rows, hvisits, hrows⟩ := ih hf.2.2.2
    refine ⟨_, .passed rfl rfl hvisits, ?_⟩
    rw [collect_folder, hrows, doors, List.map_cons, doorKey, Key.descendant_concat]; rfl

/-- The key of a placeholder ends with the delimiter, so that the directory shows as an item. -/
theorem ownRows_placeholder (key : String) :
    ownRows false (Key.placeholder key) = [.item { key := Key.placeholder key }] := by
  have hends := Key.namesDirectory_placeholder key
  have hne : Key.placeholder key ≠ "" := fun h => by rw [h] at hends; exact absurd hends (by decide)
  rw [ownRows, if_neg (not_or.mpr ⟨hne, Bool.false_ne_true⟩), if_pos (namesDirectory_iff.mp hends)]

theorem stem_doorKey (hway : ∀ n ∈ way, Key.IsName n) : Key.stem (doorKey way) = Key.descendant "" way := by
  rw [doorKey, Key.stem_placeholder, Key.stem_descendant (by decide) hway]

/-- A delimited listing fetches the directory that it lists, and no other one. -/
theorem lists_level (hf : f.Proper) (hway : ∀ n ∈ way, Key.IsName n) :
    ∃ rows, Lists (shown f (doorKey way)) false (doorKey way) [doorKey way] (.ok rows) ∧
      collect none rows = level (way, f) := by
  have hopen := shown_root f (doorKey way)
  have hself : ownRows false (doorKey way) = [.item { key := doorKey way }] := ownRows_placeholder _
  obtain ⟨rows, hvisits, hrows⟩ := visits_children (shown f (doorKey way)) hf way
  rw [← stem_doorKey hway] at hvisits
  have hexpands := Expands.directory hopen (not_namesObject hf _) hvisits
  rw [hself] at hexpands
  refine ⟨_, .expanded (fun message key hmissing => ?_) hexpands, ?_⟩
  · rw [hopen] at hmissing
    cases hmissing
  · show collect none (.item _ :: rows) = _
    rw [collect_item, hrows, level]

/-! ### All levels -/

/-- What a drill-down gathers in a directory: the files, and a plain item for each directory. -/
def drilled (parent : String) : Forest → List Blob.Item
  | .nil => []
  | .file e rest => item (Key.child parent e.name) e :: drilled parent rest
  | .folder e inside rest =>
    { key := Key.placeholder (Key.child parent e.name) } :: drilled (Key.child parent e.name) inside ++
      drilled parent rest

/-- What a drill-down gathers from a directory on. -/
def Door.items (door : Door) : List Blob.Item :=
  { key := doorKey door.1 } :: drilled (Key.descendant "" door.1) door.2

/-- The ways to a directory and to all folders below it. -/
def Door.ways (door : Door) : List (List String) := door.1 :: door.2.directories.map (door.1 ++ ·)

/-- What is gathered in a directory is what its listing returns and what is gathered from its folders on. -/
theorem drilled_perm (way : List String) (f : Forest) :
    (drilled (Key.descendant "" way) f).Perm
      (files (Key.descendant "" way) f ++ (doors way f).flatMap Door.items) := by
  induction f with
  | nil => exact .refl _
  | file e rest ih => exact ih.cons _
  | folder e inside rest _ ih =>
    have hdoor : Door.items (way ++ [e.name], inside) =
        { key := Key.placeholder (Key.child (Key.descendant "" way) e.name) } ::
          drilled (Key.child (Key.descendant "" way) e.name) inside := by
      rw [Door.items, doorKey, Key.descendant_concat]
    rw [drilled, files, doors, List.flatMap_cons, hdoor]
    exact (ih.append_left _).trans (List.perm_append_comm_assoc ..)

theorem ways_eq (way : List String) (f : Forest) :
    f.directories.map (way ++ ·) = (doors way f).flatMap Door.ways := by
  induction f with
  | nil => rfl
  | file e rest ih => exact ih
  | folder e inside rest _ ih =>
    rw [Forest.directories_folder, doors, List.flatMap_cons, ← ih, Door.ways, List.map_append, List.map_cons,
      List.map_map]
    simp only [List.append_assoc, List.singleton_append, Function.comp_def]

/-- A listing moves one way from what is pending to what has been listed. -/
theorem ways_perm (door : Door) (others : List Door) :
    ((door :: others).flatMap Door.ways).Perm
      (door.1 :: (others ++ doors door.1 door.2).flatMap Door.ways) := by
  rw [List.flatMap_cons, Door.ways, ways_eq, List.flatMap_append, List.cons_append]
  exact List.perm_append_comm.cons _

/-- It moves items from what is pending to what has been gathered. -/
theorem items_perm (door : Door) (others : List Door) :
    ((door :: others).flatMap Door.items).Perm
      ((level door).items ++ (others ++ doors door.1 door.2).flatMap Door.items) := by
  have hdoor : door.items.Perm ((level door).items ++ (doors door.1 door.2).flatMap Door.items) :=
    (drilled_perm door.1 door.2).cons _
  rw [List.flatMap_cons, List.flatMap_append]
  exact ((hdoor.append_right _).trans (.of_eq (List.append_assoc ..))).trans
    (List.perm_append_comm.append_left _)

theorem mem_doors (hf : f.Proper) {inner : Door} (h : inner ∈ doors way f) :
    ∃ n, inner.1 = way ++ [n] ∧ f.directory? [n] = some inner.2 := by
  induction f with
  | nil => cases h
  | file e rest ih =>
    obtain ⟨n, hway, hn⟩ := ih hf.2.2 h
    exact ⟨n, hway, Forest.directory?_file_of_rest hf.2.1 (List.cons_ne_nil _ _) hn⟩
  | folder e inside rest _ ih =>
    rcases List.mem_cons.mp h with rfl | h
    · exact ⟨e.name, rfl, by rw [Forest.directory?_folder, if_pos rfl, Forest.directory?_here]⟩
    · obtain ⟨n, hway, hn⟩ := ih hf.2.2.2 h
      exact ⟨n, hway, Forest.directory?_folder_of_rest hf.2.1 (List.cons_ne_nil _ _) hn⟩

/-- The folders that a listing returns are directories of the tree. -/
theorem directory?_of_mem_doors (htree : tree.Proper) (hf : tree.directory? way = some f) :
    ∀ inner ∈ doors way f, tree.directory? inner.1 = some inner.2 := by
  intro inner hinner
  have hleads := Forest.leads_of_directory? hf
  obtain ⟨n, hway, hn⟩ := mem_doors (hleads.proper htree) hinner
  rw [hway, hleads.directory?_append, hn]

/-- A drill-down gathers the keys of a flat listing. -/
theorem map_key_drilled (parent : String) (f : Forest) :
    (drilled parent f).map Blob.Item.key = (items parent f).map Blob.Item.key := by
  induction f generalizing parent with
  | nil => rfl
  | file e rest ih => rw [drilled, items, List.map_cons, List.map_cons, ih]
  | folder e inside rest ihi ihr =>
    rw [drilled, items, List.map_append, List.map_append, List.map_cons, List.map_cons, ihi, ihr]; rfl

/-- Whether an item is one of a file: its key does not end with the delimiter. -/
def isFile (i : Blob.Item) : Bool := !Key.namesDirectory i.key

theorem isFile_placeholder {i : Blob.Item} {key : String} (hi : i.key = Key.placeholder key) :
    ¬ isFile i = true := by
  rw [isFile, hi, Key.namesDirectory_placeholder]
  exact Bool.false_ne_true

/-- It gathers the same items of files. -/
theorem filter_isFile_drilled (parent : String) (f : Forest) :
    (drilled parent f).filter isFile = (items parent f).filter isFile := by
  induction f generalizing parent with
  | nil => rfl
  | file e rest ih => rw [drilled, items, List.filter_cons, List.filter_cons, ih]
  | folder e inside rest ihi ihr =>
    rw [drilled, items, List.filter_append, List.filter_append,
      List.filter_cons_of_neg (isFile_placeholder rfl),
      List.filter_cons_of_neg (isFile_placeholder rfl), ihi, ihr]

end LakeStore.Listing

namespace LakeStore.Backend

open Dialogue
open Listing (Door doorKey doors level isFile)
open Remote (Request Response)

variable {b : Backend} {tree f : Forest} {d : List String} {σ : Type}

/-- A client that goes down level by level: it lists what is pending and, later on, each folder that such a
listing returns. Each turn says which of the pending keys comes next. The keys that were listed are returned
with their items. -/
def drillDown (b : Backend) : (turns : List Nat) → (pending : List String) →
    Call (List (String × List Blob.Item))
  | [], pending => if pending.isEmpty then return [] else throw .unfinished
  | turn :: turns, pending =>
    match pending.rotate turn with
    | [] => return []
    | key :: others => do
      let listing ← b.list { root := key, delimiter := some "/" }
      let calls ← b.drillDown turns (others ++ listing.folders.map Blob.Folder.path)
      return (key, listing.items) :: calls

/-- A delimited listing of a directory asks for its children, and for nothing else. -/
theorem asks_list_level (htree : tree.Proper) (hd : tree.directory? d = some f) :
    Asks (P := Remote.protocol) (b.Shows tree) (b.list { root := doorKey d, delimiter := some "/" }).run
      [b.childrenRequest (doorKey d)] (.ok (level (d, f))) := by
  have hleads := Forest.leads_of_directory? hd
  have hnames := hleads.isName htree
  have hchildren : ∀ path ∈ [doorKey d], Asks (P := Remote.protocol) (b.Shows tree) (b.children path).run
      [b.childrenRequest path] (Listing.shown f (doorKey d) path) := by
    refine List.forall_mem_singleton.mpr ?_
    rw [Listing.shown_root]
    exact asks_children htree (Key.spells_descendant hnames).placeholder hd
  obtain ⟨rows, hlists, hrows⟩ := Listing.lists_level (hleads.proper htree) hnames
  have ho : ListOptions.objection? { root := doorKey d, delimiter := some "/" } = none := rfl
  have hlist := asks_list ho hlists (Nat.le_add_left _ _) hchildren
  rw [← hrows]
  exact hlist

/-- Whichever folder comes next, if there are enough turns the drill-down lists each directory from the
pending ones on once, and gathers what is to be gathered from them on. -/
theorem asks_drillDown (htree : tree.Proper) : ∀ (turns : List Nat) (pending : List Door),
    (∀ door ∈ pending, tree.directory? door.1 = some door.2) →
    (pending.flatMap Door.ways).length ≤ turns.length →
    ∃ calls, Asks (P := Remote.protocol) (b.Shows tree)
      (b.drillDown turns (pending.map fun door => doorKey door.1)).run
        (calls.map fun call => b.childrenRequest call.1) (.ok calls) ∧
      (calls.map Prod.fst).Perm ((pending.flatMap Door.ways).map doorKey) ∧
      (calls.flatMap Prod.snd).Perm (pending.flatMap Door.items)
  | [], [], _, _ => ⟨[], ⟨rfl, rfl⟩, .refl _, .refl _⟩
  | [], door :: pending, _, hturns => by
    rw [List.flatMap_cons, Door.ways] at hturns
    simp at hturns
  | turn :: turns, pending, hpending, hturns => by
    have hperm := List.rotate_perm pending turn
    rw [drillDown, ← List.map_rotate]
    cases hnext : pending.rotate turn with
    | nil =>
      rw [hnext] at hperm
      obtain rfl := hperm.nil_eq
      exact ⟨[], ⟨rfl, rfl⟩, .refl _, .refl _⟩
    | cons door others =>
      rw [hnext] at hperm
      have hdoor := hpending door (hperm.mem_iff.mp List.mem_cons_self)
      have hothers : ∀ door' ∈ others, tree.directory? door'.1 = some door'.2 := fun door' h =>
        hpending door' (hperm.mem_iff.mp (List.mem_cons_of_mem _ h))
      have hways := (hperm.symm.flatMap_right Door.ways).trans (Listing.ways_perm door others)
      have hitems := (hperm.symm.flatMap_right Door.items).trans (Listing.items_perm door others)
      have hfolders : others.map (fun door => doorKey door.1) ++ (level door).folders.map Blob.Folder.path =
          (others ++ doors door.1 door.2).map fun door => doorKey door.1 := by
        rw [level, List.map_map, List.map_append]; rfl
      have hlength : ((others ++ doors door.1 door.2).flatMap Door.ways).length ≤ turns.length := by
        have hone := hways.length_eq
        rw [List.length_cons] at hone hturns
        omega
      obtain ⟨calls, hcalls, hkeys, hgathered⟩ := asks_drillDown htree turns (others ++ doors door.1 door.2)
        (List.forall_mem_append.mpr ⟨hothers, Listing.directory?_of_mem_doors htree hdoor⟩) hlength
      rw [← hfolders] at hcalls
      have hend : Asks (P := Remote.protocol) (b.Shows tree)
          (pure ((doorKey door.1, (level door).items) :: calls) : Call (List (String × List Blob.Item))).run
            [] _ :=
        ⟨rfl, rfl⟩
      have hlater :=
        hcalls.run_bind (f := fun calls => pure ((doorKey door.1, (level door).items) :: calls)) hend
      rw [List.append_nil] at hlater
      have hall := (asks_list_level htree hdoor).run_bind (f := fun listing =>
        b.drillDown turns (others.map (fun door => doorKey door.1) ++
          listing.folders.map Blob.Folder.path) >>=
          fun calls => pure ((doorKey door.1, listing.items) :: calls)) hlater
      refine ⟨(doorKey door.1, (level door).items) :: calls, hall, ?_, ?_⟩
      · exact (hkeys.cons _).trans (hways.symm.map doorKey)
      · exact (hgathered.append_left _).trans hitems.symm

/-- A drill-down from a directory, with a remote that shows the tree, ends after one delimited listing of
each directory, whichever folder comes next. Each listing sends one request. What is gathered has the keys
of the flat listing and that of the directory itself, each as often, and the same items of files. -/
theorem drillDown_agrees (htree : tree.Proper) (hd : tree.directory? d = some f)
    (hreach : f.folders ≤ b.reach) {remote : Request → σ → Except Fault Response × σ}
    (hremote : ∀ q s, b.Shows tree q (remote q s).1) {turns : List Nat} (hturns : f.folders < turns.length)
    (serials : Nat) (s : σ) :
    ∃ (calls : List (String × List Blob.Item)) (flat : List Blob.Item),
      (Dialogue.run (P := Remote.protocol) remote (b.drillDown turns [doorKey d]).run serials s).value =
        .ok calls ∧
      (Dialogue.run (P := Remote.protocol) remote (b.list { root := doorKey d }).run serials s).value =
        .ok { items := flat } ∧
      (calls.map Prod.fst).Perm ((d :: f.directories.map (d ++ ·)).map doorKey) ∧
      ((calls.flatMap Prod.snd).map Blob.Item.key).Perm (doorKey d :: flat.map Blob.Item.key) ∧
      ((calls.flatMap Prod.snd).filter isFile).Perm (flat.filter isFile) ∧
      Event.questions
          (Dialogue.run (P := Remote.protocol) remote (b.drillDown turns [doorKey d]).run serials s).events =
        calls.map (fun call => b.childrenRequest call.1) ∧
      ∀ call ∈ calls, ∀ serials s, Event.questions (Dialogue.run (P := Remote.protocol) remote
        (b.list { root := call.1, delimiter := some "/" }).run serials s).events =
          [b.childrenRequest call.1] := by
  have hleads := Forest.leads_of_directory? hd
  have hf := hleads.proper htree
  have hnames := hleads.isName htree
  have hspells : Key.Spells (doorKey d) d := (Key.spells_descendant hnames).placeholder
  have hallowed : ∀ {asked : List Request}, ∀ q ∈ asked, ∀ s, b.Shows tree q (remote q s).1 :=
    fun q _ s => hremote q s
  have hpending : [((d, f) : Door)].flatMap Door.ways = d :: f.directories.map (d ++ ·) :=
    List.flatMap_singleton ..
  have hlength : ([((d, f) : Door)].flatMap Door.ways).length ≤ turns.length := by
    rw [hpending, List.length_cons, List.length_map, Forest.length_directories]; exact hturns
  obtain ⟨calls, hasks, hkeys, hgathered⟩ :=
    asks_drillDown htree turns [(d, f)] (List.forall_mem_singleton.mpr hd) hlength
  obtain ⟨hvalue, hasked⟩ := hasks.run remote hallowed serials s
  obtain ⟨hflat, -⟩ := (asks_list_flat none htree hspells hd hreach).run remote hallowed serials s
  rw [hpending] at hkeys
  rw [List.flatMap_singleton, Door.items] at hgathered
  rw [Listing.stem_doorKey hnames] at hflat
  refine ⟨calls, _, hvalue, hflat, hkeys, ?_, ?_, hasked, ?_⟩
  · rw [← Listing.map_key_drilled]
    exact hgathered.map Blob.Item.key
  · have hfiles := hgathered.filter isFile
    rwa [List.filter_cons_of_neg (Listing.isFile_placeholder rfl), Listing.filter_isFile_drilled] at hfiles
  · intro call hcall serials s
    obtain ⟨r, hr, heq⟩ := List.mem_map.mp (hkeys.mem_iff.mp (List.mem_map_of_mem hcall))
    obtain ⟨g, hg⟩ : ∃ g, tree.directory? r = some g := by
      rcases List.mem_cons.mp hr with rfl | hr
      · exact ⟨f, hd⟩
      · obtain ⟨n, hn, rfl⟩ := List.mem_map.mp hr
        obtain ⟨g, hg⟩ := hf.exists_directory n hn
        exact ⟨g, (hleads.directory?_append n).trans hg⟩
    obtain ⟨-, hone⟩ := (asks_list_level htree hg).run remote hallowed serials s
    rw [← heq]
    exact hone

/-- Two levels are gone down. -/
theorem drillDown_agrees_shelf :
    shelf.Proper ∧ shelf.directory? ["d"] = some nested ∧ nested.folders ≤ 1 ∧
      (∀ q s, Shows ⟨{ endpoint := "a.b", bucket := "b" }, 1⟩ shelf q (showing q s).1) ∧
      nested.folders < [0, 1].length ∧
      ∃ (calls : List (String × List Blob.Item)) (flat : List Blob.Item),
        (Dialogue.run (P := Remote.protocol) showing
          (drillDown ⟨{ endpoint := "a.b", bucket := "b" }, 1⟩ [0, 1] ["d/"]).run 0 ()).value = .ok calls ∧
        (Dialogue.run (P := Remote.protocol) showing
          (list ⟨{ endpoint := "a.b", bucket := "b" }, 1⟩ { root := "d/" }).run 0 ()).value =
            .ok { items := flat } ∧
        (calls.map Prod.fst).Perm ["d/", "d/e/"] ∧
        ((calls.flatMap Prod.snd).map Blob.Item.key).Perm ("d/" :: flat.map Blob.Item.key) := by
  have hd : shelf.directory? ["d"] = some nested := by rfl
  have hturns : nested.folders < [0, 1].length := by decide
  have hroot : doorKey ["d"] = "d/" := by decide
  have hdirectories : (["d"] :: nested.directories.map (["d"] ++ ·)).map doorKey = ["d/", "d/e/"] := by decide
  obtain ⟨calls, flat, hcalls, hflat, hkeys, hperm, -⟩ :=
    drillDown_agrees (b := ⟨{ endpoint := "a.b", bucket := "b" }, 1⟩) proper_shelf hd (by decide)
      shows_showing
      hturns 0 ()
  rw [hroot] at hcalls hflat hperm
  rw [hdirectories] at hkeys
  exact ⟨proper_shelf, hd, by decide, shows_showing, hturns, calls, flat, hcalls, hflat, hkeys, hperm⟩

end LakeStore.Backend
