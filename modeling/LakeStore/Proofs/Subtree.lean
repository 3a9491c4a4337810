import LakeStore.Proofs.Places
import LakeStore.Proofs.Recursion

/-!
What a flat listing tells of a directory, and what it asks for.

Direct recursion over a forest emits the items of its nodes in the order of their places and fetches each
directory once, when it comes to it. A walk is direct recursion, so this is what a listing does with any
remote that shows a tree below the bucket, however the directory is spelled.
-/

namespace LakeStore.Listing

open Dialogue
open Forest (Listable Place Proper)
open Remote (FileStatus)

variable {fetch : String → Except Fault (List FileStatus)} {f : Forest} {e : Entry} {parent path : String}
  {r paths : List String}

/-! ### Items -/

/-- The key of a node below a key: the names on the way with slashes between them, and for a directory one
more slash behind them. -/
def placeKey (parent : String) (x : Place) : String :=
  Key.joined parent x.path ++ if x.isDirectory then "/" else ""

/-- The item of a node below a key. -/
def placeItem (parent : String) (x : Place) : Blob.Item where
  key := placeKey parent x
  size := x.entry.length
  lastModified := (Instant.ofMillis x.entry.modified).toOption.map Moment.ofInstant

theorem placeItem_child (parent : String) (hn : e.name ≠ "") (isDirectory : Bool) : placeItem parent
    ⟨[e.name], e, isDirectory⟩ = item (Key.child parent e.name ++ if isDirectory then "/" else "") e := by
  rw [placeItem, placeKey, Key.joined_cons parent hn, Key.joined_nil]; rfl

/-- Below a directory the keys go on behind its name. -/
theorem placeItem_under (parent : String) {n : String} (hn : n ≠ "") (x : Place) :
    placeItem parent (x.under [n]) = placeItem (Key.child parent n) x := by
  have hpath : Key.joined parent (x.under [n]).path = Key.joined (Key.child parent n) x.path :=
    Key.joined_cons parent hn
  rw [placeItem, placeItem, placeKey, placeKey, hpath]; rfl

theorem items_eq_places (hf : f.Proper) (parent : String) :
    items parent f = f.places.map (placeItem parent) := by
  induction f generalizing parent with
  | nil => rfl
  | file e rest ih =>
    rw [items, Forest.places, List.map_cons, ih hf.2.2, placeItem_child parent hf.1.name.1,
      if_neg Bool.false_ne_true, String.append_empty]
  | folder e inside rest ihi ihr =>
    obtain ⟨he, -, hinside, hrest⟩ := hf
    have hbelow : inside.places.map (placeItem (Key.child parent e.name)) =
        (inside.places.map (Place.under [e.name])).map (placeItem parent) := by
      rw [List.map_map]
      exact List.map_congr_left fun x _ => (placeItem_under parent he.name.1 x).symm
    rw [items, Forest.places, List.map_append, List.map_cons, ihi hinside, ihr hrest, hbelow,
      placeItem_child parent he.name.1]
    rfl

/-- Different nodes go by different keys. -/
theorem nodup_keys (hf : f.Proper) (hparent : Key.stem parent = parent) :
    ((items parent f).map Blob.Item.key).Nodup := by
  have hstems : (((items parent f).map Blob.Item.key).map Key.stem).Nodup := by
    have hway : ∀ r ∈ f.paths, Key.segments (Key.remotePath "" (Key.descendant parent r)) =
        Key.segments (Key.remotePath "" parent) ++ r := fun r hr =>
      Key.segments_remotePath_descendant (by decide) hparent (hf.isName r hr)
    rw [List.map_map, Function.comp_def, stem_items hf]
    refine hf.nodup_paths.map_on fun r hr r' hr' heq => ?_
    rw [← List.append_right_inj (Key.segments (Key.remotePath "" parent)), ← hway r hr, ← hway r' hr', heq]
  exact hstems.of_map

/-! ### Recursion over a forest -/

/-- The children of a directory that goes by the key `root`, and of the folders below it. What counts of a
key is how its way goes on from the root; what is no directory is gone. -/
def shown (f : Forest) (root key : String) : Except Fault (List FileStatus) :=
  match f.directory?
    ((Key.segments (Key.remotePath "" key)).drop (Key.segments (Key.remotePath "" root)).length) with
  | some g => .ok g.statuses
  | none => .error (gone key)

theorem shown_root (f : Forest) (root : String) : shown f root root = .ok f.statuses := by
  rw [shown, List.drop_length, Forest.directory?_here]

theorem shown_below (root : String) (hr : ∀ n ∈ r, Key.IsName n) (hg : f.directory? r = some g) :
    shown f root (Key.descendant (Key.stem root) r) = .ok g.statuses := by
  rw [shown, Key.segments_remotePath_descendant (by decide) (Key.stem_stem root) hr,
    Key.segments_remotePath_stem, List.drop_left, hg]

theorem not_namesObject (hf : f.Proper) (path : String) : ¬ NamesObject path f.statuses := fun h =>
  Bool.false_ne_true ((isObject_eq_false hf).symm.trans (isObject_iff.mpr h).2)

theorem childRow_file (he : Listable e) (recursive : Bool) (key : String) :
    childRow recursive key ⟨e.length, e.name, "FILE", e.modified⟩ = .ok (.item (item key e)) :=
  itemRow_eq he key _

theorem childRow_entered (he : Listable e) (key : String) :
    childRow true key ⟨e.length, e.name, "DIRECTORY", e.modified⟩ =
      .ok (.item (item (Key.placeholder key) e)) :=
  itemRow_eq he _ _

/-- A directory that is entered emits what its children emit. -/
theorem expands_of_visits {rows : List Row} (hf : f.Proper) (hopen : fetch path = .ok f.statuses)
    (h : Visits fetch true (visits (Key.stem path) f) paths (.ok rows)) :
    Expands fetch true path (path :: paths) (.ok rows) := by
  have hexpands := Expands.directory hopen (not_namesObject hf path) h
  have hself : ownRows true path = [] := if_pos (.inr rfl)
  rwa [hself, map_nil_append] at hexpands

/-- The recursion visits all nodes of a forest, and fetches all folders. -/
theorem visits_forest (hf : f.Proper)
    (hfetch : ∀ r g, r ≠ [] → f.directory? r = some g → fetch (Key.descendant parent r) = .ok g.statuses) :
    Visits fetch true (visits parent f) (f.directories.map (Key.descendant parent))
      (.ok ((items parent f).map Row.item)) := by
  induction f generalizing parent with
  | nil => exact .done
  | file e rest ih =>
    have hrest := ih hf.2.2 fun r g hr hg => hfetch r g hr (Forest.directory?_file_of_rest hf.2.1 hr hg)
    exact .passed (childRow_file hf.1 true _) rfl hrest
  | folder e inside rest ihi ihr =>
    obtain ⟨he, hnames, hinside, hproper⟩ := hf
    have hrest := ihr hproper fun r g hr hg => hfetch r g hr (Forest.directory?_folder_of_rest hnames hr hg)
    have hhere (r : List String) :
        Forest.directory? (e.name :: r) (.folder e inside rest) = inside.directory? r := by
      rw [Forest.directory?_folder, if_pos rfl]
    have hbelow :=
      ihi hinside fun r g _ hg => hfetch (e.name :: r) g (List.cons_ne_nil _ _) ((hhere r).trans hg)
    have hopen : fetch (Key.child parent e.name) = .ok inside.statuses :=
      hfetch [e.name] inside (List.cons_ne_nil _ _) ((hhere []).trans (Forest.directory?_here _))
    have hkey := Key.stem_child parent he.name
    have henter := expands_of_visits hinside hopen (hkey.symm ▸ hbelow)
    rw [hkey] at henter
    have hall := @Visits.entered fetch true (parent, ⟨e.length, e.name, "DIRECTORY", e.modified⟩) _ _ _ _ _ _
      (childRow_entered he (Key.child parent e.name)) rfl henter hrest
    rw [Forest.directories_folder, List.map_append, List.map_cons, List.map_map, items, List.map_append,
      List.map_cons]
    exact hall

/-- The recursion from the key of a directory on. -/
theorem lists_forest (hf : f.Proper) (root : String) :
    Lists (shown f root) true root (root :: f.directories.map (Key.descendant (Key.stem root)))
      (.ok ((items (Key.stem root) f).map Row.item)) := by
  have hvisits :=
    visits_forest hf fun r g _ hg => shown_below root ((Forest.leads_of_directory? hg).isName hf) hg
  refine .expanded (fun message key hmissing => ?_) (expands_of_visits hf (shown_root f root) hvisits)
  rw [shown_root] at hmissing
  cases hmissing

/-- What holds of the directory and of all folders below it holds of every path that is fetched. -/
theorem forall_fetched {root : String} {P : String → Forest → Prop} (hf : f.Proper) (hroot : P root f)
    (hbelow : ∀ r g, r ≠ [] → f.directory? r = some g → P (Key.descendant (Key.stem root) r) g) :
    ∀ path ∈ root :: f.directories.map (Key.descendant (Key.stem root)),
      ∃ g, shown f root path = .ok g.statuses ∧ P path g := by
  refine List.forall_mem_cons.mpr ⟨⟨f, shown_root f root, hroot⟩, List.forall_mem_map.mpr fun r hr => ?_⟩
  obtain ⟨g, hg⟩ := hf.exists_directory r hr
  exact ⟨g, shown_below root (hf.isName_of_directories r hr) hg,
    hbelow r g (Forest.ne_nil_of_directories hr) hg⟩

/-! ### A counterpart with a state -/

variable {able : Prop} {σ α : Type}
  {answers : String → σ → Except Fault (List FileStatus) → σ → Prop} {state : σ}

/-- A path is answered by these statuses only, and nothing else happens; and if the remote is able to answer
at all, it is so answered. -/
structure Gives (able : Prop) (answers : String → σ → Except Fault (List FileStatus) → σ → Prop) (state : σ)
    (path : String) (statuses : List FileStatus) : Prop where
  given : able → answers path state (.ok statuses) state
  only : ∀ answer t, answers path state answer t → answer = .ok statuses ∧ t = state

/-- However many keys are wanted, a walk ends with this value only and leaves the tree as it is; and if the
remote is able to answer, it does end. -/
def Emits (able : Prop) (answers : String → σ → Except Fault (List FileStatus) → σ → Prop) (state : σ)
    (x : Walk α) (v : α) : Prop :=
  ∀ budget, (able → ∃ spent, Runs (P := protocol) answers (x.run.run budget) state (.ok v, spent) state) ∧
    ∀ r t, Runs (P := protocol) answers (x.run.run budget) state r t → r.1 = .ok v ∧ t = state

/-- A flat walk emits everything below the directory that it starts from. -/
theorem emits_walk {limit : Nat} (hf : f.Proper) (hlimit : f.folders ≤ limit)
    (hroot : Gives able answers state path f.statuses)
    (hgives : ∀ r g, r ≠ [] → f.directory? r = some g →
      Gives able answers state (Key.descendant (Key.stem path) r) g.statuses) :
    Emits able answers state (walk true limit path) ((items (Key.stem path) f).map Row.item) := by
  have hlength : (path :: f.directories.map (Key.descendant (Key.stem path))).length ≤ limit + 1 := by
    rw [List.length_cons, List.length_map, Forest.length_directories]; omega
  have hfetched :=
    forall_fetched (P := fun path g => Gives able answers state path g.statuses) hf hroot hgives
  intro budget
  obtain ⟨spent, hasks⟩ := takes_walk (lists_forest hf path) hlength budget
  constructor
  · intro hable
    refine ⟨spent, hasks.runs fun place hplace => ?_⟩
    obtain ⟨g, hshown, hgiven⟩ := hfetched place hplace
    exact ⟨.ok g.statuses, hshown.symm, hgiven.given hable⟩
  · intro r t hruns
    obtain ⟨rfl, rfl⟩ := hasks.only (fun place hplace answer t hanswer => by
      obtain ⟨g, hshown, hgiven⟩ := hfetched place hplace
      obtain ⟨rfl, rfl⟩ := hgiven.only answer t hanswer
      exact ⟨hshown.symm, rfl⟩) hruns
    exact ⟨rfl, rfl⟩

end LakeStore.Listing

namespace LakeStore.Backend

open Dialogue
open Forest (Place)
open Listing (placeItem)
open Remote (FileStatus Request Response)

/-! ### Any remote that shows a tree -/

/-- What a remote may answer that shows a tree below the bucket: it tells the children of a directory,
whatever slashes stand behind the path that it is asked for. Any other question may be answered in any
way. -/
def Shows (b : Backend) (tree : Forest) (q : Request) (answer : Except Fault Response) : Prop :=
  ∀ r g, q.operation = .listStatus → Key.untailed q.path = Key.untailed (Key.joined b.bucket r) →
    tree.directory? r = some g → told answer = .ok g.statuses

variable {b : Backend} {tree f : Forest} {d r : List String} {p key : String} {σ : Type}

theorem asks_children {g : Forest} (htree : tree.Proper) (hkey : Key.Spells key r)
    (hg : tree.directory? r = some g) :
    Asks (P := Remote.protocol) (b.Shows tree) (b.children key).run [b.childrenRequest key]
      (.ok g.statuses) := by
  have hpath := hkey.untailed_remotePath ((Forest.leads_of_directory? hg).isName htree) b.bucket
  exact asks_of_silent_eq (Remote.silent_fetch _ _ _) fun _ hanswer => hanswer r g rfl hpath hg

/-- A listing asks for the children of the paths that its walk fetches. -/
theorem asks_list {o : ListOptions} {fetch : String → Except Fault (List FileStatus)}
    {allowed : Request → Except Fault Response → Prop} {paths : List String}
    {r : Except Fault (List Listing.Row)} (ho : o.objection? = none)
    (hlists : Listing.Lists fetch o.isRecursive o.root paths r)
    (hreach : paths.length ≤ b.reach + 1) (hchildren : ∀ path ∈ paths,
      Asks (P := Remote.protocol) allowed (b.children path).run [b.childrenRequest path] (fetch path)) :
    Asks (P := Remote.protocol) allowed (b.list o).run (paths.map b.childrenRequest)
      (r.map (Listing.collect o.marker)) := by
  obtain ⟨spent, hwalk⟩ := Listing.takes_walk hlists hreach o.maxKeys
  have hvia := hwalk.via fun path hpath => ⟨fetch path, rfl, hchildren path hpath⟩
  have hend : Asks (P := Remote.protocol) allowed (.done (r.map (Listing.collect o.marker))) []
      (r.map (Listing.collect o.marker)) := ⟨rfl, rfl⟩
  rw [← asks_silent, b.silent_list ho, asks_silent]
  exact List.append_nil (paths.map b.childrenRequest) ▸ hvia.bind hend

/-- A flat listing of a directory, spelled in any way, asks for the children of the directory and of each
folder below it, and returns the items of all nodes. -/
theorem asks_list_flat (maxKeys : Option Int) (htree : tree.Proper) (hp : Key.Spells p d)
    (hd : tree.directory? d = some f) (hreach : f.folders ≤ b.reach) :
    Asks (P := Remote.protocol) (b.Shows tree) (b.list { root := p, maxKeys }).run
      ((p :: f.directories.map (Key.descendant (Key.stem p))).map b.childrenRequest)
      (.ok { items := Listing.items (Key.stem p) f }) := by
  have hleads := Forest.leads_of_directory? hd
  have hf := hleads.proper htree
  have hchildren : ∀ path ∈ p :: f.directories.map (Key.descendant (Key.stem p)),
      Asks (P := Remote.protocol) (b.Shows tree) (b.children path).run [b.childrenRequest path]
        (Listing.shown f p path) := by
    have hfetched := Listing.forall_fetched (P := fun path g =>
      Asks (P := Remote.protocol) (b.Shows tree) (b.children path).run [b.childrenRequest path]
        (.ok g.statuses)) hf
      (asks_children htree hp hd) fun r g _ hg =>
        asks_children htree (hp.descendant ((Forest.leads_of_directory? hg).isName hf))
          ((hleads.directory?_append r).trans hg)
    intro path hpath
    obtain ⟨g, hshown, hasks⟩ := hfetched path hpath
    exact hshown.symm ▸ hasks
  have hlength : (p :: f.directories.map (Key.descendant (Key.stem p))).length ≤ b.reach + 1 := by
    rw [List.length_cons, List.length_map, Forest.length_directories]; omega
  have hasks : Asks (P := Remote.protocol) (b.Shows tree) (b.list { root := p, maxKeys }).run _ _ :=
    asks_list rfl (Listing.lists_forest hf p) hlength hchildren
  rwa [Except.map, ListOptions.marker, Option.orElse, Listing.collect_items] at hasks

/-- A directory with a file and a directory in it. -/
def nested : Forest := .folder { name := "e" } (.file { name := "x" } .nil) (.file { name := "y" } .nil)

/-- The only directories of it are itself and the one in it. -/
theorem directory?_nested {g : Forest} (hg : nested.directory? r = some g) :
    r = [] ∧ g = nested ∨ r = ["e"] ∧ g = .file { name := "x" } .nil := by
  cases Forest.leads_of_directory? hg with
  | here => exact .inl ⟨rfl, rfl⟩
  | into hin =>
    cases hin with
    | here => exact .inr ⟨rfl, rfl⟩
    | pastFile _ hnil => cases hnil
  | pastFolder _ hrest =>
    cases hrest with
    | pastFile _ hnil => cases hnil

/-- An answer that tells children. -/
def telling (children : String) : Response where
  operation := .listStatus
  status := 200
  body := Utf8.encode ("\x7b\"FileStatuses\":\x7b\"FileStatus\":[" ++ children ++ "]\x7d\x7d")

/-- A directory with a directory and a file in it, and a file beside it. -/
def shelf : Forest := .folder { name := "d" } nested (.file { name := "z" } .nil)

/-- A remote that shows it below a bucket. -/
def showing (q : Request) (_ : Unit) : Except Fault Response × Unit :=
  (.ok (telling
    (if Key.untailed q.path = "b/d/e" then "\x7b\"pathSuffix\":\"x\"\x7d"
    else if Key.untailed q.path = "b/d" then
      "\x7b\"pathSuffix\":\"e\",\"type\":\"DIRECTORY\"\x7d,\x7b\"pathSuffix\":\"y\"\x7d"
    else "\x7b\"pathSuffix\":\"d\",\"type\":\"DIRECTORY\"\x7d,\x7b\"pathSuffix\":\"z\"\x7d")), ())

theorem shows_showing (q : Request) (s : Unit) :
    Shows ⟨{ endpoint := "a.b", bucket := "b" }, 1⟩ shelf q (showing q s).1 := by
  intro r g _ hpath hg
  rw [showing, hpath]
  cases Forest.leads_of_directory? hg with
  | here => decide +kernel
  | into hin =>
    have hinside := hin.directory?_append []
    rw [List.append_nil, Forest.directory?_here] at hinside
    rcases directory?_nested hinside with ⟨rfl, rfl⟩ | ⟨rfl, rfl⟩
    · decide +kernel
    · decide +kernel
  | pastFolder _ hrest =>
    cases hrest with
    | pastFile _ hnil => cases hnil

theorem proper_shelf : shelf.Proper := by
  have hstart : ∃ t, Instant.ofMillis 0 = .ok t := ⟨⟨0⟩, by decide +kernel⟩
  have hlistable : ∀ n, Key.IsName n → Forest.Listable { name := n } := fun n hn => ⟨hn, hstart⟩
  have hd := hlistable "d" (by decide)
  have he := hlistable "e" (by decide)
  have hx := hlistable "x" (by decide)
  have hy := hlistable "y" (by decide)
  have hz := hlistable "z" (by decide)
  exact ⟨hd, by decide, ⟨he, by decide, ⟨hx, by decide, trivial⟩, hy, by decide, trivial⟩, hz,
    by decide, trivial⟩

end LakeStore.Backend
