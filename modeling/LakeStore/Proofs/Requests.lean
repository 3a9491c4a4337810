import LakeStore.Backend.Command
import LakeStore.Proofs.Ending
import LakeStore.Proofs.Turn

/-!
What requests each operation makes, and how it gives up when one of them gets no answer.

A dialogue yields to some answers if after any of them it asks nothing more and ends in a value that shows
it. Every operation of the backend makes only a few kinds of requests, whatever it is answered. It yields to
a failure of the exchange, whichever of its requests fails, and shows it as a failure that may pass. The one
exception is a part: the failure of its probe is put aside, and the part ends as its refused append does.
-/

namespace LakeStore.Dialogue

variable {P Q : Protocol} {α β ε : Type}

/-- A dialogue that asks nothing and ends in a value with `post`. -/
def Ends (post : α → Prop) (d : Dialogue P α) : Prop := Always (fun _ => False) post d

/-- Whatever a dialogue is answered, it asks only questions with `p` and ends only in values with `post`;
and as soon as an answer `fails`, it asks nothing more and ends in a value with `shows`. -/
def Yields (p : P.Question → Prop) (fails : (q : P.Question) → P.Answer q → Prop) (shows post : α → Prop) :
    Dialogue P α → Prop
  | .done a => post a
  | .ask q next => p q ∧ ∀ answer,
    Yields p fails shows post (next answer) ∧ (fails q answer → Ends shows (next answer))
  | .note _ next => Yields p fails shows post next
  | .draw next => ∀ serial, Yields p fails shows post (next serial)

section Yields

variable {p : P.Question → Prop} {fails : (q : P.Question) → P.Answer q → Prop} {shows post : α → Prop}
  {showsAfter postAfter : β → Prop} {d : Dialogue P α} {a : α} {turns before after : List (Turn P)}

theorem Ends.bind {f : α → Dialogue P β} (hd : Ends shows d) (hf : ∀ a, shows a → Ends showsAfter (f a)) :
    Ends showsAfter (d >>= f) :=
  (always_bind d f).mpr (hd.mono (fun _ h => h) hf)

theorem Ends.via {answer : (q : P.Question) → Dialogue Q (P.Answer q)} (hd : Ends shows d) :
    Ends shows (Dialogue.via answer d) := by
  induction d with
  | done a => exact hd
  | ask q next ih => exact hd.1.elim
  | note n next ih => exact ih hd
  | draw next ih => exact fun serial => ih serial (hd serial)

theorem Ends.went (hd : Ends shows d) (h : Went d turns a) : turns = [] ∧ shows a := by
  obtain ⟨hturns, ha⟩ := h.always hd
  exact ⟨List.eq_nil_iff_forall_not_mem.mpr hturns, ha⟩

theorem yields_silent : Yields p fails shows post (silent d) ↔ Yields p fails shows post d := by
  induction d with
  | done a => rfl
  | ask q next ih =>
    exact and_congr_right fun _ => forall_congr' fun answer =>
      and_congr (ih answer) (imp_congr_right fun _ => always_silent _)
  | note n next ih => exact ih
  | draw next ih => exact forall_congr' ih

theorem Yields.always (hd : Yields p fails shows post d) : Always p post d := by
  induction d with
  | done a => exact hd
  | ask q next ih => exact ⟨hd.1, fun answer => ih answer (hd.2 answer).1⟩
  | note n next ih => exact ih hd
  | draw next ih => exact fun serial => ih serial (hd serial)

/-- One dialogue after the other: the second one has to show what the first one does. -/
theorem Yields.bind {f : α → Dialogue P β} (hd : Yields p fails shows post d)
    (hf : ∀ a, post a → Yields p fails showsAfter postAfter (f a))
    (hshows : ∀ a, shows a → Ends showsAfter (f a)) : Yields p fails showsAfter postAfter (d >>= f) := by
  induction d with
  | done a => exact hf a hd
  | ask q next ih =>
    exact ⟨hd.1,
      fun answer => ⟨ih answer (hd.2 answer).1, fun hfails => ((hd.2 answer).2 hfails).bind hshows⟩⟩
  | note n next ih => exact ih hd
  | draw next ih => exact fun serial => ih serial (hd serial)

/-- A dialogue that is carried over asks what its answers ask, and yields to what they show. -/
theorem Yields.via {below : Q.Question → Prop} {failsBelow : (q : Q.Question) → Q.Answer q → Prop}
    {answer : (q : P.Question) → Dialogue Q (P.Answer q)} (hd : Yields p fails shows post d)
    (h : ∀ q, p q → Yields below failsBelow (fails q) (fun _ => True) (answer q)) :
    Yields below failsBelow shows post (Dialogue.via answer d) := by
  induction d with
  | done a => exact hd
  | ask q next ih =>
    exact (h q hd.1).bind (fun a _ => ih a (hd.2 a).1) fun a hfails => ((hd.2 a).2 hfails).via
  | note n next ih => exact ih hd
  | draw next ih => exact fun serial => ih serial (hd serial)

/-- The answer that a dialogue yields to is the last one. -/
theorem Yields.went {x : Turn P} (hd : Yields p fails shows post d) (h : Went d (before ++ x :: after) a)
    (hx : fails x.question x.answer) : after = [] ∧ shows a := by
  induction d generalizing before with
  | done b => exact absurd (went_done.mp h).1 (by simp)
  | ask q next ih =>
    obtain ⟨answer, rest, hturns, hnext⟩ := went_ask.mp h
    cases before with
    | nil =>
      obtain ⟨rfl, rfl⟩ := List.cons.inj hturns
      exact ((hd.2 answer).2 hx).went hnext
    | cons y before =>
      obtain ⟨-, rfl⟩ := List.cons.inj hturns
      exact ih answer (hd.2 answer).1 hnext
  | note n next ih => exact ih hd (runs_note_iff.mp h)
  | draw next ih =>
    obtain ⟨serial, hnext⟩ := went_draw.mp h
    exact ih serial (hd serial) hnext

end Yields

end LakeStore.Dialogue

namespace LakeStore.Remote

open Dialogue

/-- No response was received for a request: what is known of it is the failure. -/
def NoResponse (failure : RequestFailure) (_ : Request) (answer : Except Fault Response) : Prop :=
  answer = .error (.request failure)

/-- A failure of the exchange, as an operation shows it. -/
def lapse (failure : RequestFailure) : Fault := .store (Classification.ofFault (.request failure))

/-- A call that makes only requests with `p`, and shows a failure of the exchange as soon as there is one. -/
def Relays {α : Type} (p : Request → Prop) (failure : RequestFailure) (task : Call α) : Prop :=
  Yields (P := protocol) p (NoResponse failure) (· = .error (lapse failure)) (fun _ => True) task.run

variable {p : Request → Prop} {failure : RequestFailure} {α β : Type}

theorem relays_of_silent {task : Call α} {q : Request} {f : Except Fault Response → Except Fault α}
    (h : task.run.silent = .ask q fun answer => .done (f answer)) (hq : p q)
    (hf : f (.error (.request failure)) = .error (lapse failure)) : Relays p failure task := by
  rw [Relays, ← yields_silent, h]
  exact ⟨hq, fun answer => ⟨trivial, by rintro rfl; exact hf⟩⟩

theorem relays_execute {q : Request} {structured : Bool} (hq : p q) :
    Relays p failure (execute q structured) :=
  relays_of_silent (silent_execute q structured) hq rfl

theorem relays_fetch {read : Value → Checked α} {q : Request} {structured : Bool} (hq : p q) :
    Relays p failure (fetch read q structured) :=
  relays_of_silent (silent_fetch read q structured) hq rfl

theorem relays_done {task : Call α} {r : Except Fault α} (h : task.run.silent = .done r) :
    Relays p failure task := by
  rw [Relays, ← yields_silent, h]; exact trivial

theorem relays_pure (a : α) : Relays p failure (pure a : Call α) := trivial

theorem relays_serial : Relays p failure (ExceptT.lift Dialogue.serial : Call Nat) := fun _ => trivial

/-- A failure is passed on. -/
theorem relays_bind {task : Call α} {f : α → Call β} (htask : Relays p failure task)
    (hf : ∀ a, Relays p failure (f a)) : Relays p failure (task >>= f) := by
  rw [Relays, ExceptT.run_bind]
  refine htask.bind (fun r _ => ?_) ?_
  · cases r with
    | ok a => exact hf a
    | error fault => exact trivial
  · rintro _ rfl
    exact rfl

theorem relays_map {task : Call α} (f : α → β) (htask : Relays p failure task) :
    Relays p failure (f <$> task) := by
  rw [map_eq_pure_bind]; exact relays_bind htask fun a => relays_pure (f a)

end LakeStore.Remote

namespace LakeStore.Listing

open Dialogue

/-- The keys that a walk from a root may come to: the names on the way are told by the remote. -/
inductive Reached (root : String) : String → Prop
  | root : Reached root root
  | child {parent : String} (name : String) :
      Reached root parent → Reached root (Key.child (Key.stem parent) name)

/-- A visit to a child of a key that a walk has come to. -/
def Due (root : String) (v : Visit) : Prop := ∃ parent, Reached root parent ∧ v.1 = Key.stem parent

/-- A part of a walk that asks only for keys below a root, and fails as soon as it is told of a failure. -/
def Stays {α : Type} (root : String) (fault : Fault) (post : α → Prop) (x : Walk α) : Prop :=
  ∀ budget, Yields (P := protocol) (Reached root) (fun _ answer => answer = .error fault)
    (fun p => p.1 = .error fault) (fun p => ∀ a, p.1 = .ok a → post a) (x.run.run budget)

variable {α β : Type} {root path : String} {fault : Fault} {post : α → Prop} {recursive : Bool}

theorem stays_pure {a : α} (ha : post a) : Stays root fault post (pure a) := by
  rintro budget b hb
  obtain rfl := Except.ok.inj hb
  exact ha

theorem stays_throw (other : Fault) : Stays root fault post (throw other : Walk α) := by
  rintro budget b hb
  exact nomatch hb

theorem stays_lift (x : Except Fault α) : Stays root fault (fun _ => True) (liftM x : Walk α) := by
  cases x with
  | ok a => exact stays_pure trivial
  | error other => exact stays_throw other

theorem stays_bind {postAfter : β → Prop} {x : Walk α} {f : α → Walk β} (hx : Stays root fault post x)
    (hf : ∀ a, post a → Stays root fault postAfter (f a)) : Stays root fault postAfter (x >>= f) := by
  intro budget
  rw [run_bind]
  refine (hx budget).bind ?_ ?_
  · rintro ⟨other | a, spent⟩ ha
    · rintro b hb
      exact nomatch hb
    · exact hf a (ha a rfl) spent
  · rintro ⟨r, spent⟩ hr
    obtain rfl : r = .error fault := hr
    exact rfl

theorem stays_map {x : Walk α} (hx : Stays root fault post x) (g : α → β) :
    Stays root fault (fun _ => True) (x >>= fun a => pure (g a)) :=
  stays_bind hx fun _ _ => stays_pure trivial

theorem stays_expand (recursive : Bool) (hpath : Reached root path) :
    Stays root fault (fun found => ∀ v ∈ found.2, Due root v) (expand recursive path) := by
  intro budget
  obtain ⟨spent, hsilent⟩ := silent_expand recursive path budget
  rw [← yields_silent, hsilent]
  refine ⟨hpath, fun answer => ⟨?_, by rintro rfl; exact rfl⟩⟩
  rcases answer with other | statuses
  · rintro found hfound
    exact nomatch hfound
  · rintro found hfound v hv
    exact ⟨path, hpath, (expanded_eq_ok hfound v hv).1⟩

theorem stays_visit {enter : String → List Visit → Walk (List Row)}
    (henter : ∀ key rest, Reached root key → (∀ v ∈ rest, Due root v) →
      Stays root fault (fun _ => True) (enter key rest)) :
    ∀ agenda, (∀ v ∈ agenda, Due root v) → Stays root fault (fun _ => True) (visit recursive enter agenda)
  | [], _ => stays_pure trivial
  | (parent, s) :: rest, h => by
    obtain ⟨⟨p, hp, hparent⟩, hrest⟩ := List.forall_mem_cons.mp h
    obtain rfl : parent = Key.stem p := hparent
    have ih := stays_visit henter rest hrest
    rw [visit]
    split
    · exact stays_bind (stays_lift _) fun row _ => stays_map ih _
    · split
      · exact stays_bind (stays_lift _) fun row _ => stays_map (henter _ rest (.child _ hp) hrest) _
      · exact stays_map ih _

theorem stays_visitAll : ∀ limit agenda, (∀ v ∈ agenda, Due root v) →
    Stays root fault (fun _ => True) (visitAll recursive limit agenda)
  | 0, agenda, h => stays_visit (fun _ _ _ _ => stays_throw _) agenda h
  | limit + 1, agenda, h => by
    refine stays_visit (fun key rest hkey hrest => ?_) agenda h
    refine stays_bind (stays_expand recursive hkey) fun found hfound =>
      stays_map (stays_visitAll limit _ ?_) _
    exact List.forall_mem_append.mpr ⟨hfound, hrest⟩

/-- Only of a missing root is nothing made. -/
theorem stays_walk (hfault : isMissing fault = false) (recursive : Bool) (limit : Nat) (root : String) :
    Stays root fault (fun _ => True) (walk recursive limit root) := by
  intro budget
  rw [walk, run_attempt_bind]
  refine (stays_expand recursive .root budget).bind ?_ ?_
  · rintro ⟨other | found, spent⟩ hfound
    · show Yields _ _ _ _ ((if isMissing other then pure [] else throw other : Walk (List Row)).run.run spent)
      split
      · exact stays_pure trivial spent
      · exact stays_throw other spent
    · exact stays_map (stays_visitAll limit found.2 (hfound found rfl)) _ spent
  · rintro ⟨r, spent⟩ hr
    obtain rfl : r = .error fault := hr
    show Ends _ ((if isMissing fault then pure [] else throw fault : Walk (List Row)).run.run spent)
    rw [hfault]; exact rfl

end LakeStore.Listing

namespace LakeStore.Backend

open Dialogue
open Remote (Request Relays NoResponse lapse relays_execute relays_fetch relays_of_silent
  relays_done relays_pure relays_bind relays_map relays_serial settle)

/-- The request that creates the directory of a key. -/
def directoryRequest (b : Backend) (key : String) : Request :=
  { operation := .mkdirs, path := b.path key, params := [("permission", b.account.directoryPermission)] }

/-- The requests that an operation may make. -/
inductive Command.Makes (b : Backend) : Command → Request → Prop
  | probe (key : String) : Makes b (.probe key) { operation := .getFileStatus, path := b.path key }
  | head (key : String) : Makes b (.head key) { operation := .getFileStatus, path := b.path key }
  | list {o : ListOptions} {key : String} :
      Listing.Reached o.root key → Makes b (.list o) (b.childrenRequest key)
  | delete (key : String) : Makes b (.delete key) (deleteRequest (b.path (Key.stem key)))
  | deleteAll {keys : List String} {key : String} : key ∈ keys →
      Makes b (.deleteAll keys) (deleteRequest (b.path (Key.stem key)))
  | rename (source destination : String) : Makes b (.rename source destination)
      { operation := .rename, path := b.path source
        params := [("destination", "/" ++ b.path destination), ("renameoptions", "OVERWRITE")] }
  | get (key : String) (o : GetOptions) :
      Makes b (.get key o) { operation := .openFile, path := b.path key, params := o.params, stream := true }
  | put (key : String) (body : Blob.Content) : Makes b (.put key body false) (b.putRequest key body)
  | makeDirectory (key : String) (body : Blob.Content) : Makes b (.put key body true) (b.directoryRequest key)
  | beginUpload (key : String) (serial : Nat) : Makes b (.beginUpload key)
      (Upload.createRequest b.account.filePermission (b.path key) (Identifier.numbered serial))
  | addPart (u : Upload) (body : Blob.Content) (size : Int) :
      Makes b (.addPart (.upload u) body size) (u.partRequest body)
  | probePart (u : Upload) (body : Blob.Content) (size : Int) :
      Makes b (.addPart (.upload u) body size) (u.extend size).closeRequest
  | commitUpload (u : Upload) : Makes b (.commitUpload (.upload u)) u.closeRequest
  | abortUpload (u : Upload) : Makes b (.abortUpload (.upload u)) (u.appendRequest none .close)
  | makeContainer : b.bucket ≠ "" → Makes b .makeContainer (b.directoryRequest "")
  | removeContainer : b.bucket ≠ "" → Makes b .removeContainer (deleteRequest (b.path ""))

variable {failure : RequestFailure} {α β : Type} {b : Backend} {p : Request → Prop} {c : Command}

theorem relays_observed {api : Api} {arguments : List (String × Value)} {task : Call α}
    (h : Relays p failure task) : Relays p failure (observed api arguments task) := by
  rw [Relays, ← yields_silent, silent_observed, yields_silent]; exact h

theorem relays_effect {q : Request} {structured : Bool} {kind : FinalKind} {message : String} {key : Value}
    (hq : p q) :
    Relays p failure (do if !(← Remote.takesEffect q structured) then fail kind message key : Call Unit) := by
  refine relays_bind (relays_fetch hq) fun took => ?_
  cases took
  · exact relays_done rfl
  · exact relays_pure ()

theorem relays_head {key : String} (hq : p { operation := .getFileStatus, path := b.path key }) :
    Relays p failure (b.head key) := by
  refine relays_observed (relays_bind (relays_fetch hq) fun s => relays_bind ?_ fun t => relays_pure _)
  rw [lastModified]
  cases s.lastModified <;> exact relays_done rfl

theorem relays_list {o : ListOptions} (hq : ∀ key, Listing.Reached o.root key → p (b.childrenRequest key)) :
    Relays p failure (b.list o) := by
  cases ho : o.objection? with
  | some why =>
    refine relays_done (r := .error (.store (.final .notSupported why (.text o.root)))) ?_
    rw [list, silent_observed, ho]; rfl
  | none =>
    have hstays : Listing.Stays o.root (lapse failure) _ _ :=
      Listing.stays_walk rfl o.isRecursive b.reach o.root
    rw [Relays, ← yields_silent, b.silent_list ho, yields_silent]
    refine ((hstays o.maxKeys).via fun key hkey => relays_fetch (hq key hkey)).bind (fun p _ => trivial) ?_
    rintro ⟨r, spent⟩ hr
    obtain rfl : r = .error (lapse failure) := hr
    exact rfl

theorem relays_deletions : ∀ {keys : List String}, (∀ key ∈ keys, p (deleteRequest (b.path (Key.stem key)))) →
    Relays p failure (keys.forM b.deleteKey)
  | [], _ => relays_pure ()
  | _ :: _, h => relays_bind (relays_effect (h _ List.mem_cons_self)) fun _ =>
    relays_deletions fun key hkey => h key (List.mem_cons_of_mem _ hkey)

theorem relays_requireBucket {task : Call α} (h : b.bucket ≠ "" → Relays p failure task) :
    Relays p failure (b.requireBucket >>= fun _ => task) := by
  by_cases hb : b.bucket = ""
  · rw [requireBucket, if_pos hb]; exact relays_done rfl
  · rw [requireBucket, if_neg hb]; exact relays_bind (relays_pure ()) fun _ => h hb

theorem relays_commitUpload {h : Handle} (hq : ∀ u, h = .upload u → p u.closeRequest) :
    Relays p failure (commitUpload h) := by
  cases h with
  | other type => exact relays_observed (relays_done rfl)
  | upload u => exact relays_of_silent ((silent_observed _ _ _).trans (Upload.silent_commit u)) (hq u rfl) rfl

theorem relays_abortUpload {h : Handle} (hq : ∀ u, h = .upload u → p (u.appendRequest none .close)) :
    Relays p failure (abortUpload h) := by
  cases h with
  | other type => exact relays_observed (relays_done rfl)
  | upload u => exact relays_of_silent ((silent_observed _ _ _).trans (Upload.silent_abort u)) (hq u rfl) rfl

/-- Every operation makes its requests and relays a failure of the exchange, but for parts. -/
theorem relays_perform (b : Backend) (c : Command) (hc : ∀ h body size, c ≠ .addPart h body size) :
    Relays (c.Makes b) failure (b.perform c) := by
  cases c with
  | probe key => exact relays_map _ (relays_of_silent (silent_probe b key) (.probe key) rfl)
  | head key => exact relays_map _ (relays_head (.head key))
  | list o => exact relays_map _ (relays_list fun _ hkey => .list hkey)
  | delete key => exact relays_map _ (relays_observed (relays_effect (.delete key)))
  | deleteAll keys =>
    refine relays_map _ (relays_observed (relays_deletions fun key hkey => .deleteAll ?_))
    exact Key.mem_deletionOrder.mp hkey
  | rename source destination =>
    exact relays_map _ (relays_observed (relays_effect (.rename source destination)))
  | copy source destination => exact relays_map _ (relays_observed (relays_done rfl))
  | get key o =>
    exact relays_map _ (relays_observed (relays_bind (relays_execute (.get key o)) fun _ => relays_pure _))
  | put key body isDirectory =>
    refine relays_map _ (relays_observed ?_)
    cases isDirectory
    · exact relays_bind (relays_execute (.put key body)) fun _ => relays_pure _
    · exact relays_effect (.makeDirectory key body)
  | beginUpload key =>
    refine relays_map _ (relays_observed (relays_bind relays_serial fun serial => ?_))
    exact relays_bind (relays_execute (.beginUpload key serial)) fun _ => relays_pure _
  | addPart h body size => exact absurd rfl (hc h body size)
  | commitUpload h => exact relays_map _ (relays_commitUpload (by rintro u rfl; exact .commitUpload u))
  | abortUpload h => exact relays_map _ (relays_abortUpload (by rintro u rfl; exact .abortUpload u))
  | expireUploads => exact relays_map _ (relays_done rfl)
  | makeContainer =>
    exact relays_map _ (relays_observed (relays_requireBucket fun hb => relays_effect (.makeContainer hb)))
  | removeContainer =>
    exact relays_map _ (relays_observed (relays_requireBucket fun hb => relays_effect (.removeContainer hb)))

/-! ### Parts -/

theorem always_addPart (h : Handle) (body : Blob.Content) (size : Int) :
    Always (P := Remote.protocol) ((Command.addPart h body size).Makes b) (fun _ => True)
      (b.perform (.addPart h body size)).run := by
  rw [perform, run_map_eq_bind, always_bind, ← always_silent]
  cases h with
  | other type =>
    rw [addPart, silent_observed]
    exact trivial
  | upload u =>
    rw [Upload.silent_addPart]
    refine ⟨.addPart u body size, fun answer => ?_⟩
    show Always _ _ ((u.extend size).followed (settle true answer))
    by_cases hf : ∃ f, Upload.RefusesOffset answer f
    · obtain ⟨f, hf⟩ := hf
      rw [Upload.followed_of_refusesOffset hf]
      exact ⟨.probePart u body size, fun probe => trivial⟩
    · rw [Upload.followed_of_not_refusesOffset (not_exists.mp hf)]
      exact trivial

/-- Whatever it is answered, an operation makes no other requests. -/
theorem always_perform (b : Backend) (c : Command) :
    Always (P := Remote.protocol) (c.Makes b) (fun _ => True) (b.perform c).run := by
  by_cases hc : ∃ h body size, c = .addPart h body size
  · obtain ⟨h, body, size, rfl⟩ := hc
    exact always_addPart h body size
  · push Not at hc
    have hrelays : Relays (c.Makes b) ⟨"", "", "", true, none⟩ (b.perform c) := relays_perform b c hc
    exact hrelays.always

/-- Only the body of an object that is opened is streamed. -/
theorem Command.Makes.stream {q : Request} (h : c.Makes b q) (hstream : q.stream = true) :
    ∃ key o, c = .get key o := by
  cases h with
  | get key o => exact ⟨key, o, rfl⟩
  | _ => cases hstream

/-- The refused part whose probe gets no answer. -/
inductive Unprobed (c : Command) : List (Turn Remote.protocol) → Except Fault Reply → Prop
  | intro {u : Upload} {body : Blob.Content} {size : Int} {x : Turn Remote.protocol} {f : RemoteFailure} :
      c = .addPart (.upload u) body size → Upload.RefusesOffset x.answer f →
      Unprobed c [x] (.error (.store (Remote.Classification.collapsed f)))

theorem eq_of_append_cons_eq_singleton {before after : List α} {x y : α} (h : before ++ x :: after = [y]) :
    before = [] ∧ x = y ∧ after = [] := by
  rcases List.append_eq_singleton_iff.mp h with ⟨rfl, hcons⟩ | ⟨-, hnil⟩
  · obtain ⟨rfl, rfl⟩ := List.cons.inj hcons
    exact ⟨rfl, rfl, rfl⟩
  · cases hnil

/-- The request that gets no answer is the last one, and the operation shows the failure, or else the
request was the probe of a part. -/
theorem went_noResponse {before after : List (Turn Remote.protocol)} {x : Turn Remote.protocol}
    {r : Except Fault Reply} (h : Went (b.perform c).run (before ++ x :: after) r)
    (hx : NoResponse failure x.question x.answer) :
    after = [] ∧ (r = .error (lapse failure) ∨ Unprobed c before r) := by
  by_cases hc : ∃ h body size, c = .addPart h body size
  · obtain ⟨hd, body, size, rfl⟩ := hc
    obtain ⟨r', hpart, rfl⟩ := runs_run_map.mp h
    cases hd with
    | other type =>
      rw [← runs_silent, addPart, silent_observed] at hpart
      exact absurd (went_done.mp hpart).1 (by simp)
    | upload u =>
      generalize hturns : before ++ x :: after = turns at hpart
      cases Upload.runs_addPart.mp hpart with
      | @answered answer _ hserves hf =>
        obtain rfl : turns = [⟨_, answer⟩] := hserves
        obtain ⟨rfl, rfl, rfl⟩ := eq_of_append_cons_eq_singleton hturns
        obtain rfl : answer = .error (.request failure) := hx
        exact ⟨rfl, .inl rfl⟩
      | @probed answer probe f _ _ hserves hf hprobe =>
        obtain rfl := hserves
        obtain rfl := hprobe
        rcases List.append_eq_cons_iff.mp hturns with ⟨rfl, hcons⟩ | ⟨ys, rfl, hys⟩
        · obtain ⟨rfl, -⟩ := List.cons.inj hcons
          obtain rfl : answer = .error (.request failure) := hx
          exact nomatch hf.1
        · obtain ⟨rfl, rfl, rfl⟩ := eq_of_append_cons_eq_singleton hys.symm
          obtain rfl : probe = .error (.request failure) := hx
          exact ⟨rfl, .inr (.intro rfl hf)⟩
  · push Not at hc
    exact ((relays_perform b c hc).went h hx).imp_right .inl

end LakeStore.Backend
