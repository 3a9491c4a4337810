import LakeStore.Proofs.Ending
import LakeStore.Proofs.Instant
import LakeStore.Proofs.Walk

/-!
The times that heads and listings carry.

A head and every row of an object or placeholder are made of one status that the remote told, and carry the
very instant that its count of milliseconds is. Only the row of the directory that a delimited listing
starts from has no time.
-/

namespace LakeStore.Listing

open Dialogue
open Remote (FileStatus)

variable {α β : Type}

/-- A status that one of the turns tells of, at a path. -/
def Shown (turns : List (Turn protocol)) (path : String) (s : FileStatus) : Prop :=
  ∃ statuses, (⟨path, .ok statuses⟩ : Turn protocol) ∈ turns ∧ s ∈ statuses

/-- What is known of statuses at paths, after some turns. -/
def informed (known : String → FileStatus → Prop) (turns : List (Turn protocol)) (path : String)
    (s : FileStatus) : Prop :=
  known path s ∨ Shown turns path s

theorem informed_append (known : String → FileStatus → Prop) (xs ys : List (Turn protocol)) :
    informed known (xs ++ ys) = informed (informed known xs) ys := by
  funext path s
  have hshown : Shown (xs ++ ys) path s ↔ Shown xs path s ∨ Shown ys path s := by
    simp only [Shown, List.mem_append, or_and_right, exists_or]
  rw [informed, informed, informed, hshown, or_assoc]

/-- The keys that a status at a path can have in a listing: an object that is listed itself keeps its key. -/
def Names (path : String) (s : FileStatus) (key : String) : Prop :=
  key = path ∨ key = (if s.isDirectory then Key.placeholder (Key.child (Key.stem path) s.pathSuffix)
    else Key.child (Key.stem path) s.pathSuffix)

/-- A row with the size and the time of a status that is known. Only the directory that is listed itself has
no time. -/
inductive Stamped (own : Option String) (known : String → FileStatus → Prop) : Row → Prop
  | made {path key : String} {s : FileStatus} {t : Instant} :
      known path s → Names path s key → s.lastModified = .ok t →
      Stamped own known (.item ⟨key, s.length, some (Moment.ofInstant t)⟩)
  | own {path : String} : own = some path → Stamped own known (.item { key := path })
  | folder (f : Blob.Folder) : Stamped own known (.folder f)

/-- A part of a walk whose value has `post`, by what is known at its end. -/
def Makes (known : String → FileStatus → Prop) (x : Walk α)
    (post : (String → FileStatus → Prop) → α → Prop) : Prop :=
  ∀ budget turns v spent, Went (x.run.run budget) turns (.ok v, spent) → post (informed known turns) v

section Makes

variable {own : Option String} {known : String → FileStatus → Prop} {x : Walk α}
  {post : (String → FileStatus → Prop) → α → Prop} {postAfter : (String → FileStatus → Prop) → β → Prop}
  {recursive : Bool} {path key : String}

theorem informed_nil (known : String → FileStatus → Prop) : informed known [] = known := by
  funext path s
  simp [informed, Shown]

theorem makes_pure {v : α} (h : post known v) : Makes known (pure v) post := by
  intro budget turns w spent hwent
  obtain ⟨rfl, hv⟩ := went_done.mp hwent
  obtain rfl := Except.ok.inj (Prod.mk.inj hv).1
  rwa [informed_nil]

theorem makes_throw {fault : Fault} : Makes known (throw fault : Walk α) post := by
  intro budget turns w spent hwent
  exact nomatch (Prod.mk.inj (went_done.mp hwent).2).1

/-- One part of a walk after the other: what the first one was told is known to the second one. -/
theorem Makes.bind {f : α → Walk β} (hx : Makes known x post)
    (hf : ∀ (more : String → FileStatus → Prop) (v : α), (∀ path s, known path s → more path s) →
      post more v →
      Makes more (f v) postAfter) : Makes known (x >>= f) postAfter := by
  intro budget turns w spent hwent
  rw [run_bind, went_bind] at hwent
  obtain ⟨⟨v, left⟩, xs, ys, rfl, hfirst, hrest⟩ := hwent
  rcases v with fault | v
  · exact nomatch (Prod.mk.inj (went_done.mp hrest).2).1
  · rw [informed_append]
    exact hf _ v (fun _ _ => .inl) (hx budget xs v left hfirst) left ys w spent hrest

theorem makes_fetch : Makes known (fetch path) fun known statuses => ∀ s ∈ statuses, known path s := by
  intro budget turns statuses spent hwent
  obtain ⟨answer, rest, rfl, hdone⟩ := went_ask.mp hwent
  obtain ⟨rfl, hanswer⟩ := went_done.mp hdone
  obtain rfl := (Prod.mk.inj hanswer).1
  exact fun s hs => .inr ⟨statuses, List.mem_cons_self, hs⟩

theorem makes_row (own : Option String) {s : FileStatus} (hs : known path s) (hkey : Names path s key) :
    Makes known (liftM (itemRow key s) : Walk Row) (Stamped own) := by
  intro budget turns row spent hwent
  obtain ⟨rfl, hrow⟩ :=
    went_done.mp (show Went (.done (itemRow key s, budget)) turns (.ok row, spent) from hwent)
  have hrow : itemRow key s = .ok row := (Prod.mk.inj hrow).1.symm
  rw [informed_nil]
  rw [itemRow] at hrow
  cases ht : s.lastModified with
  | error e => rw [ht] at hrow; cases hrow
  | ok t =>
    rw [ht] at hrow
    obtain rfl := Except.ok.inj hrow
    exact .made hs hkey ht

theorem Stamped.mono {more : String → FileStatus → Prop}
    (h : ∀ path s, known path s → more path s) {row : Row} (hrow : Stamped own known row) :
    Stamped own more row := by
  cases hrow with
  | made hs hkey ht => exact .made (h _ _ hs) hkey ht
  | own hown => exact .own hown
  | folder f => exact .folder f

/-- Rows that are all stamped. -/
def AllStamped (own : Option String) (known : String → FileStatus → Prop) (rows : List Row) : Prop :=
  ∀ row ∈ rows, Stamped own known row

/-- A part of a walk that makes rows, and some rows before or behind them. -/
theorem Makes.append {y : Walk (List Row)} {rows : List Row} (hrows : AllStamped own known rows)
    (hy : Makes known y (AllStamped own)) :
    Makes known (y >>= fun more => pure (rows ++ more)) (AllStamped own) :=
  hy.bind fun _ _ hmore hfound => makes_pure fun row hrow =>
    (List.mem_append.mp hrow).elim (fun hrow => (hrows row hrow).mono hmore) (hfound row)

/-- A child to visit whose status is known at the path of its parent. -/
def Pending (known : String → FileStatus → Prop) (v : Visit) : Prop :=
  ∃ path, v.1 = Key.stem path ∧ known path v.2

theorem Pending.mono {more : String → FileStatus → Prop}
    (h : ∀ path s, known path s → more path s) {v : Visit}
    (hv : Pending known v) : Pending more v := hv.imp fun _ hv => ⟨hv.1, h _ _ hv.2⟩

theorem makes_mapM {statuses : List FileStatus} (hs : ∀ s ∈ statuses, known path s) :
    Makes known (statuses.mapM (liftM ∘ itemRow path) : Walk (List Row)) (AllStamped own) := by
  induction statuses generalizing known with
  | nil => exact makes_pure fun _ hrow => absurd hrow List.not_mem_nil
  | cons s rest ih =>
    obtain ⟨hfirst, hrest⟩ := List.forall_mem_cons.mp hs
    rw [List.mapM_cons]
    refine (makes_row own hfirst (.inl rfl)).bind fun more row hmore hrow => ?_
    exact Makes.append (List.forall_mem_singleton.mpr hrow) (ih fun s hs => hmore _ _ (hrest s hs))

theorem allStamped_selfRows (hown : recursive = false → own = some path) :
    AllStamped own known (selfRows recursive path) := by
  rw [selfRows]
  split_ifs with hhidden hdirectory
  · exact fun _ hrow => absurd hrow List.not_mem_nil
  · have hlevel : recursive = false := by
      rw [← Bool.not_eq_true]
      exact fun h => hhidden (.inr h)
    exact List.forall_mem_singleton.mpr (.own (hown hlevel))
  · exact List.forall_mem_singleton.mpr (.folder _)

/-- What a directory shows of itself, and its children to visit. -/
theorem makes_expand (hown : recursive = false → own = some path) :
    Makes known (expand recursive path) fun known found =>
      AllStamped own known found.1 ∧ ∀ v ∈ found.2, Pending known v := by
  refine makes_fetch.bind fun known statuses _ hstatuses => ?_
  split
  · split
    · exact makes_pure ⟨fun _ hrow => absurd hrow List.not_mem_nil, fun _ hv => absurd hv List.not_mem_nil⟩
    · exact (makes_mapM hstatuses).bind fun known rows _ hrows =>
        makes_pure ⟨hrows, fun _ hv => absurd hv List.not_mem_nil⟩
  · have hconsume :
        Makes known (liftM (Budget.consume (P := protocol) statuses.length) : Walk Unit) fun _ _ => True :=
      fun _ _ _ _ _ => trivial
    refine hconsume.bind fun known _ hmore _ => ?_
    refine makes_pure ⟨allStamped_selfRows hown, fun v hv => ?_⟩
    obtain ⟨s, hs, rfl⟩ := List.mem_map.mp hv
    exact ⟨path, rfl, hmore _ _ (hstatuses s hs)⟩

/-- The children are visited one by one; only a recursive walk enters directories. -/
theorem makes_visit {enter : String → List Visit → Walk (List Row)}
    (henter : recursive = true → ∀ known key rest, (∀ v ∈ rest, Pending known v) →
      Makes known (enter key rest) (AllStamped own)) :
    ∀ (agenda : List Visit) (known : String → FileStatus → Prop), (∀ v ∈ agenda, Pending known v) →
      Makes known (visit recursive enter agenda) (AllStamped own)
  | [], _, _ => makes_pure fun _ hrow => absurd hrow List.not_mem_nil
  | (parent, s) :: rest, known, h => by
    obtain ⟨⟨path, hparent, hs⟩, hrest⟩ := List.forall_mem_cons.mp h
    obtain rfl : parent = Key.stem path := hparent
    rw [visit]
    by_cases hdirectory : s.isDirectory
    · rw [if_neg (by simp [hdirectory])]
      by_cases hrecursive : recursive
      · rw [if_pos hrecursive]
        refine (makes_row own hs (.inr (if_pos hdirectory).symm)).bind fun more row hmore hrow => ?_
        exact Makes.append (List.forall_mem_singleton.mpr hrow)
          (henter hrecursive more _ rest fun v hv => (hrest v hv).mono hmore)
      · rw [if_neg hrecursive]
        exact Makes.append (List.forall_mem_singleton.mpr (.folder _)) (makes_visit henter rest known hrest)
    · rw [if_pos (by simp [hdirectory])]
      refine (makes_row own hs (.inr (if_neg hdirectory).symm)).bind fun more row hmore hrow => ?_
      exact Makes.append (List.forall_mem_singleton.mpr hrow)
        (makes_visit henter rest more fun v hv => (hrest v hv).mono hmore)

theorem makes_visitAll : ∀ (limit : Nat) (agenda : List Visit) (known : String → FileStatus → Prop),
    (∀ v ∈ agenda, Pending known v) → Makes known (visitAll recursive limit agenda) (AllStamped own)
  | 0, agenda, known, h => makes_visit (fun _ _ _ _ _ => makes_throw) agenda known h
  | limit + 1, agenda, known, h => by
    refine makes_visit (fun hrecursive known key rest hrest => ?_) agenda known h
    have hown : recursive = false → own = some key := fun hlevel => nomatch hlevel.symm.trans hrecursive
    refine (makes_expand hown).bind fun more found hmore hfound =>
      Makes.append hfound.1 (makes_visitAll limit _ more fun v hv => ?_)
    rcases List.mem_append.mp hv with hv | hv
    · exact hfound.2 v hv
    · exact (hrest v hv).mono hmore

/-- Every row of a walk is stamped. -/
theorem makes_walk (limit : Nat) (hown : recursive = false → own = some path) :
    Makes known (walk recursive limit path) (AllStamped own) := by
  intro budget turns rows spent hwent
  rw [walk, run_attempt_bind, went_bind] at hwent
  obtain ⟨⟨v, left⟩, xs, ys, rfl, hexpand, hrest⟩ := hwent
  rw [informed_append]
  rcases v with fault | found
  · cases hmissing : isMissing fault with
    | false =>
      simp only [hmissing, Bool.false_eq_true, if_false] at hrest
      exact makes_throw left ys rows spent hrest
    | true =>
      simp only [hmissing, if_true] at hrest
      exact makes_pure (fun _ hrow => absurd hrow List.not_mem_nil) left ys rows spent hrest
  · obtain ⟨hfound, hpending⟩ := makes_expand hown budget xs found left hexpand
    exact Makes.append hfound (makes_visitAll limit found.2 _ hpending) left ys rows spent hrest

end Makes

end LakeStore.Listing

namespace LakeStore.Backend

open Dialogue
open Remote (FileStatus settle)
open Listing (Shown Names Stamped)

variable {b : Backend} {key : String} {o : ListOptions} {turns : List (Turn Remote.protocol)}
  {listing : Blob.Listing}

/-- A status that one of the turns with the remote tells of, among the children of a key. -/
def Tells (b : Backend) (turns : List (Turn Remote.protocol)) (key : String) (s : FileStatus) : Prop :=
  ∃ answer statuses, (⟨b.childrenRequest key, answer⟩ : Turn Remote.protocol) ∈ turns ∧
    told answer = .ok statuses ∧
    s ∈ statuses

/-- A listing is a walk; what the walk is told, the remote tells. -/
theorem went_list (h : Went (b.list o).run turns (.ok listing)) :
    ∃ rows spent heard, Went ((Listing.walk o.isRecursive b.reach o.root).run.run o.maxKeys) heard
      (.ok rows, spent) ∧
      listing = Listing.collect o.marker rows ∧ ∀ path s, Shown heard path s → b.Tells turns path s := by
  have ho : o.objection? = none := by
    by_contra hsome
    obtain ⟨why, hwhy⟩ := Option.ne_none_iff_exists'.mp hsome
    rw [Went, ← runs_silent, list, silent_observed, hwhy] at h
    cases (went_run_throw.mp h).2
  rw [Went, ← runs_silent, b.silent_list ho, runs_silent] at h
  obtain ⟨⟨result, spent⟩, xs, ys, rfl, hwalk, hdone⟩ := went_bind.mp h
  obtain ⟨rfl, hlisting⟩ := went_done.mp hdone
  obtain ⟨rows, rfl⟩ : ∃ rows, result = .ok rows := by
    cases result with
    | error fault => cases hlisting
    | ok rows => exact ⟨rows, rfl⟩
  obtain ⟨errands, rfl, herrands, hwent⟩ := went_via.mp hwalk
  refine ⟨rows, spent, errands.map Errand.turn, hwent, Except.ok.inj hlisting, ?_⟩
  rintro path s ⟨statuses, hturn, hs⟩
  obtain ⟨x, hx, hxturn⟩ := List.mem_map.mp hturn
  have hchildren := herrands x hx
  rw [hxturn] at hchildren
  obtain ⟨answer, hanswer, htold⟩ := b.runs_children.mp hchildren
  refine ⟨answer, statuses, ?_, htold.symm, hs⟩
  rw [List.append_nil]
  exact List.mem_flatMap.mpr ⟨x, hx, by rw [show x.turns = _ from hanswer]; exact List.mem_cons_self⟩

/-- Every row of a listing that has a time is made of a status that was told. -/
theorem stamped_list (h : Went (b.list o).run turns (.ok listing)) {i : Blob.Item} (hi : i ∈ listing.items) :
    Stamped (if o.isRecursive then none else some o.root) (b.Tells turns) (.item i) := by
  obtain ⟨rows, spent, heard, hwalk, rfl, htells⟩ := went_list h
  have hown : o.isRecursive = false → (if o.isRecursive then none else some o.root) = some o.root :=
    fun hlevel =>
    if_neg (by rw [hlevel]; exact Bool.false_ne_true)
  have hmakes : Listing.Makes (fun _ _ => False) (Listing.walk o.isRecursive b.reach o.root) _ :=
    Listing.makes_walk b.reach hown
  have hrows := hmakes o.maxKeys heard rows spent hwalk
  have hmem : Listing.Row.item i ∈ rows := by
    obtain ⟨row, hrow, hitem⟩ := List.mem_filterMap.mp hi
    cases row with
    | folder f => cases hitem
    | item j =>
      dsimp only at hitem
      split at hitem
      · exact Option.some.inj hitem ▸ hrow
      · cases hitem
  exact (hrows _ hmem).mono fun path s hs => htells path s (hs.resolve_left id)

/-- The request for the status of a key. -/
def statusRequest (b : Backend) (key : String) : Remote.Request :=
  { operation := .getFileStatus, path := b.path key }

/-- What an answer tells of a key itself. -/
def status (answer : Except Fault Remote.Response) : Except Fault FileStatus :=
  settle false answer >>= fun response => response.decode Remote.Payload.status

/-- A head is made of the status of its key. -/
theorem went_head_eq_ok {h : Blob.Head} :
    Went (b.head key).run turns (.ok h) ↔ ∃ answer s t, turns = [⟨b.statusRequest key, answer⟩] ∧
      status answer = .ok s ∧ s.lastModified = .ok t ∧
      h = ⟨key, s.length, some (Moment.ofInstant t), s.isDirectory⟩ := by
  refine (went_of_silent_eq (f := fun answer => status answer >>= headOf key) (silent_head key)).trans ?_
  constructor
  · rintro ⟨answer, hturns, hhead⟩
    cases hstatus : status answer with
    | error fault => rw [hstatus] at hhead; cases hhead
    | ok s =>
      rw [hstatus] at hhead
      change _ = headOf key s at hhead
      rw [headOf] at hhead
      cases ht : s.lastModified with
      | error e => rw [ht] at hhead; cases hhead
      | ok t =>
        rw [ht] at hhead
        exact ⟨answer, s, t, hturns, hstatus, ht, Except.ok.inj hhead⟩
  · rintro ⟨answer, s, t, hturns, hstatus, ht, rfl⟩
    refine ⟨answer, hturns, ?_⟩
    rw [hstatus]
    show _ = headOf key s
    rw [headOf, ht]

/-- The counts of milliseconds that are instants are those of the years 1 to 9999. An instant is exact up to
2 ^ 33 seconds from 1970, and everywhere off by 15 microseconds at most, so that instants are ordered as
their counts are. A head carries the instant of the status that it is told, and so does every row of a
listing, but for the directory that a delimited listing is of, which has no time. -/
theorem modification_times (b : Backend) :
    (∀ s : FileStatus, (∃ t, s.lastModified = .ok t) ↔
      -62135596800000 ≤ s.modificationTime ∧ s.modificationTime ≤ 253402300799999) ∧
    (∀ (s : FileStatus) (t : Instant), s.lastModified = .ok t → |t.micros - 1000 * s.modificationTime| ≤ 15 ∧
      (|s.modificationTime| ≤ 8589934592000 → t.micros = 1000 * s.modificationTime)) ∧
    (∀ (s s' : FileStatus) (t t' : Instant), s.lastModified = .ok t → s'.lastModified = .ok t' →
      (s.modificationTime < s'.modificationTime ↔ t.micros < t'.micros)) ∧
    (∀ key turns h, Went (b.head key).run turns (.ok h) ↔
      ∃ answer s t, turns = [⟨b.statusRequest key, answer⟩] ∧ status answer = .ok s ∧ s.lastModified = .ok t ∧
        h = ⟨key, s.length, some (Moment.ofInstant t), s.isDirectory⟩) ∧
    ∀ o turns listing, Went (b.list o).run turns (.ok listing) → ∀ i ∈ listing.items,
      (∃ path s t, b.Tells turns path s ∧ Names path s i.key ∧ s.lastModified = .ok t ∧ i.size = s.length ∧
        i.lastModified = some (Moment.ofInstant t)) ∨
      o.isRecursive = false ∧ i = { key := o.root } := by
  refine ⟨fun s => Instant.exists_ofMillis_iff, fun s t => Instant.ofMillis_near, fun s s' t t' ht ht' => ?_,
    fun key turns h => went_head_eq_ok, fun o turns listing h i hi => ?_⟩
  · refine ⟨Instant.ofMillis_lt ht ht', fun hlt => ?_⟩
    rcases lt_trichotomy s.modificationTime s'.modificationTime with hless | hsame | hmore
    · exact hless
    · have heq : t = t' := Except.ok.inj (ht.symm.trans ((congrArg Instant.ofMillis hsame).trans ht'))
      exact absurd (heq ▸ hlt) (lt_irrefl _)
    · exact absurd (Instant.ofMillis_lt ht' ht hmore) hlt.not_gt
  · cases stamped_list h hi with
    | made hs hkey ht => exact .inl ⟨_, _, _, hs, hkey, ht, rfl, rfl⟩
    | own hown =>
      cases hlevel : o.isRecursive with
      | true => rw [hlevel, if_pos rfl] at hown; cases hown
      | false =>
        rw [hlevel, if_neg Bool.false_ne_true] at hown
        exact .inr ⟨rfl, by rw [Option.some.inj hown]⟩

/-- A status that was changed in a millisecond of our time. -/
def recent : Remote.Response where
  operation := .getFileStatus
  status := 200
  body := Utf8.encode "\x7b\"FileStatus\":\x7b\"length\":7,\"modificationTime\":1700000000123\x7d\x7d"

theorem modification_times_recent :
    ∃ t : Instant, t.micros = 1700000000123000 ∧
      Went ((⟨{ endpoint := "a.b" }, 0⟩ : Backend).head "k").run
        [⟨statusRequest ⟨{ endpoint := "a.b" }, 0⟩ "k", .ok recent⟩]
        (.ok ⟨"k", 7, some (Moment.ofInstant t), false⟩) := by
  obtain ⟨hdefined, hexact, -, hhead, -⟩ := modification_times ⟨{ endpoint := "a.b" }, 0⟩
  let s : FileStatus := { length := 7, modificationTime := 1700000000123 }
  obtain ⟨t, ht⟩ := (hdefined s).mpr (by decide)
  have hstatus : status (.ok recent) = .ok s := by decide +kernel
  exact ⟨t, (hexact s t ht).2 (by decide), (hhead _ _ _).mpr ⟨_, s, t, rfl, hstatus, ht, rfl⟩⟩

/-- One millisecond after 2 ^ 33 seconds, the instant is a microsecond too early. -/
theorem lastModified_inexact :
    FileStatus.lastModified { modificationTime := 8589934592001 } =
      .ok ⟨8589934592000999⟩ := by decide +kernel

end LakeStore.Backend
