import LakeStore.Proofs.Lapse
import LakeStore.Proofs.Normal
import LakeStore.Proofs.Reading

/-!
Where the requests of the backend go.

Every request goes to the place that the bucket and a key of its operation spell, once dot segments are
taken out. A key that never leads above its start ends up in the bucket or below it. A key that does lead
above it goes elsewhere in the account: dots are not encoded, and are taken out only when the whole URL is
there.
-/

namespace LakeStore

namespace Backend

open Dialogue
open Http (Url sending)
open Http.Url (Undotted Stays Within withoutDots pieces_glue within_of_stays withoutDots_of_undotted)
open Remote (Request)
open Remote.Transport (Grounded trimmed addressed Issues Writable grounded_of_plain plainAccount
  plainTransport plain_plainAccount ofAccount_plainAccount)

variable {t : Remote.Transport} {a : Account} {b : Backend} {c : Command} {key : String} {q : Request}

/-- The upload that a command goes on with. -/
def Command.upload? : Command → Option Upload
  | .addPart (.upload u) _ _ | .commitUpload (.upload u) | .abortUpload (.upload u) => some u
  | _ => none

/-- The keys that an operation goes to. -/
inductive Command.Visits (b : Backend) : Command → String → Prop
  | probe (key : String) : Visits b (.probe key) key
  | head (key : String) : Visits b (.head key) key
  | list {o : ListOptions} {key : String} : Listing.Reached o.root key → Visits b (.list o) key
  | delete (key : String) : Visits b (.delete key) (Key.stem key)
  | deleteAll {keys : List String} {key : String} : key ∈ keys → Visits b (.deleteAll keys) (Key.stem key)
  | rename (source destination : String) : Visits b (.rename source destination) source
  | get (key : String) (o : GetOptions) : Visits b (.get key o) key
  | put (key : String) (body : Blob.Content) (isDirectory : Bool) : Visits b (.put key body isDirectory) key
  | beginUpload (key : String) : Visits b (.beginUpload key) key
  | upload {c : Command} {u : Upload} : c.upload? = some u → Visits b c u.key
  | makeContainer : Visits b .makeContainer ""
  | removeContainer : Visits b .removeContainer ""

/-- An upload that the backend began, whatever was counted since. -/
def Began (b : Backend) (u : Upload) : Prop :=
  ∃ key turns begun size, Went (b.perform (.beginUpload key)).run turns (.ok (.upload begun)) ∧
    u = { begun with size }

/-- An upload goes to the path of its key. -/
theorem Began.remotePath {u : Upload} (h : Began b u) : u.remotePath = b.path u.key := by
  obtain ⟨key, turns, begun, size, hwent, rfl⟩ := h
  obtain ⟨r, hbegin, hr⟩ := runs_run_map.mp hwent
  cases r with
  | error fault => cases hr
  | ok v =>
    obtain rfl := Reply.upload.inj (Except.ok.inj hr)
    obtain ⟨⟨serial, rfl⟩, -⟩ := Upload.begun_of_runs hbegin
    rfl

/-- Every request of an operation goes to the path of a key of the operation. -/
theorem Command.Makes.visits (h : c.Makes b q) (hc : ∀ u ∈ c.upload?, Began b u) :
    ∃ key, c.Visits b key ∧ q.path = b.path key := by
  cases h with
  | probe key => exact ⟨key, .probe key, rfl⟩
  | head key => exact ⟨key, .head key, rfl⟩
  | list hkey => exact ⟨_, .list hkey, rfl⟩
  | delete key => exact ⟨_, .delete key, rfl⟩
  | deleteAll hkey => exact ⟨_, .deleteAll hkey, rfl⟩
  | rename source destination => exact ⟨_, .rename source destination, rfl⟩
  | get key o => exact ⟨_, .get key o, rfl⟩
  | put key body => exact ⟨_, .put key body _, rfl⟩
  | makeDirectory key body => exact ⟨_, .put key body _, rfl⟩
  | beginUpload key serial => exact ⟨_, .beginUpload key, rfl⟩
  | addPart u body size => exact ⟨u.key, .upload rfl, (hc u rfl).remotePath⟩
  | probePart u body size => exact ⟨u.key, .upload rfl, (hc u rfl).remotePath⟩
  | commitUpload u => exact ⟨u.key, .upload rfl, (hc u rfl).remotePath⟩
  | abortUpload u => exact ⟨u.key, .upload rfl, (hc u rfl).remotePath⟩
  | makeContainer _ => exact ⟨"", .makeContainer, rfl⟩
  | removeContainer _ => exact ⟨"", .removeContainer, rfl⟩

/-! ### Places -/

/-- The path of the root of a backend on the remote. -/
def rootPath (b : Backend) : String := Account.interfacePath ++ b.bucket

/-- A key that never leads above where it starts, leading delimiters aside. -/
def Descends (key : String) : Prop := Stays 0 (Text.pieces ['/'] (trimmed key).toList)

instance : DecidablePred Descends := fun key =>
  inferInstanceAs (Decidable (Stays 0 (Text.pieces ['/'] (trimmed key).toList)))

/-- A URL whose path leads, once it is decoded, to a place or below it. -/
def Contained (root : String) (u : Url) : Prop :=
  ∃ place, Text.Percent.decode u.path.toList = Utf8.encode place ∧ Within root place

theorem contained_iff {root place : String} {u : Url}
    (h : Text.Percent.decode u.path.toList = Utf8.encode place) :
    Contained root u ↔ Within root place := by
  constructor
  · rintro ⟨other, hother, hwithin⟩
    obtain rfl := Utf8.encode_injective (h.symm.trans hother)
    exact hwithin
  · exact fun hwithin => ⟨place, h, hwithin⟩

theorem path_cases (hb : b.bucket ≠ "") (key : String) :
    trimmed key = "" ∧ b.path key = b.bucket ∨ b.path key = b.bucket ++ "/" ++ trimmed key := by
  rw [path, Key.remotePath, if_neg hb]
  by_cases hkey : Text.trimStart Key.isDelimiter key = ""
  · rw [if_pos hkey]; exact .inl ⟨hkey, rfl⟩
  · rw [if_neg hkey]; exact .inr rfl

/-- No delimiter is taken off a path that starts with a bucket. -/
theorem trimmed_path (hb : b.bucket ≠ "") (htrim : Text.trimStart Key.isDelimiter b.bucket = b.bucket)
    (key : String) : trimmed (b.path key) = b.path key := by
  rcases path_cases hb key with ⟨-, hpath⟩ | hpath
  · rw [hpath]; exact htrim
  · rw [hpath]
    have hglue := Key.trimStart_glue (trimmed key) (p := b.bucket) (by rw [htrim]; exact hb)
    rw [htrim] at hglue
    exact hglue

theorem undotted_rootPath (hdots : Undotted b.bucket) : Undotted b.rootPath := by
  intro s hs
  rw [rootPath, show Account.interfacePath = "/webhdfs/v1" ++ "/" from rfl, pieces_glue,
    List.mem_append] at hs
  rcases hs with hs | hs
  · exact (by decide : Undotted "/webhdfs/v1") s hs
  · exact hdots s hs

/-- A key that descends ends up in the root or below it. -/
theorem within_rootPath (hb : b.bucket ≠ "") (hdots : Undotted b.bucket) (hkey : Descends key) :
    Within b.rootPath (withoutDots (Account.interfacePath ++ b.path key)) := by
  rcases path_cases hb key with ⟨-, hpath⟩ | hpath
  · rw [hpath]
    exact .inl (withoutDots_of_undotted (undotted_rootPath hdots))
  · rw [hpath, ← String.append_assoc, ← String.append_assoc]
    exact within_of_stays (undotted_rootPath hdots) hkey

/-- Whatever an operation sends goes to the place that the bucket and a key of the operation spell, and is
contained in the root just when that place is; so it is if the key descends. -/
theorem requests_spelled (ha : a.Plain) {v : Value} (hv : Account.ofValue v = .ok a)
    (ht : Remote.Transport.ofAccount a = .ok t) (hb : b.account = a) (hbucket : a.bucket ≠ "")
    (hdots : Undotted a.bucket) (hc : ∀ u ∈ c.upload?, Began b u) :
    ∀ turns result sent answer, Went (t.carry (b.perform c)).run turns result → sending sent answer ∈ turns →
      ∃ key, c.Visits b key ∧
        Text.Percent.decode sent.url.path.toList =
          Utf8.encode (withoutDots (Account.interfacePath ++ b.path key)) ∧
        (Contained b.rootPath sent.url ↔
          Within b.rootPath (withoutDots (Account.interfacePath ++ b.path key))) ∧
        (Descends key → Contained b.rootPath sent.url) := by
  intro turns result sent answer hwent hsent
  subst hb
  obtain ⟨hground, -⟩ := grounded_of_plain ha ht
  obtain ⟨errands, rfl, hcarried⟩ := went_carry.mp hwent
  obtain ⟨x, hx, hturn⟩ := List.mem_flatMap.mp hsent
  have hmade := (hcarried.performed.always (always_perform b c)).1 x.turn (List.mem_map_of_mem hx)
  obtain ⟨key, hkey, hpath⟩ := hmade.visits hc
  have hurl : sent.url = t.address x.turn.question := Issues.url hground ⟨_, _, _, hcarried.sent x hx, hturn⟩
  have hdecode : Text.Percent.decode sent.url.path.toList =
      Utf8.encode (withoutDots (Account.interfacePath ++ b.path key)) := by
    rw [hurl, Remote.Transport.address, addressed, hpath, trimmed_path hbucket (Account.trimStart_bucket hv)]
    exact Text.Percent.decode_encode (by decide) _
  have hcontained : Contained b.rootPath sent.url ↔ _ := contained_iff hdecode
  exact ⟨key, hkey, hdecode, hcontained,
    fun hdescends => hcontained.mpr (within_rootPath hbucket hdots hdescends)⟩

/-- There is a conversation in which an operation of one request sends it. -/
theorem exists_went_sending (hq : Writable t q) (ht : Grounded t)
    (hc : ∀ answer, ∃ r, Went (b.perform c).run [⟨q, answer⟩] r) :
    ∃ turns result sent answer, Went (t.carry (b.perform c)).run turns result ∧ sending sent answer ∈ turns ∧
      sent.url = t.address q := by
  obtain ⟨turns, fault, sent, answer, hwent, hsent⟩ := hq.unanswered ht
  obtain ⟨r, hr⟩ := hc (.error fault)
  have hcarried : Carried t b c [⟨⟨q, .error fault⟩, turns⟩] r := ⟨List.forall_mem_singleton.mpr hwent, hr⟩
  have hurl : sent.url = t.address q := Issues.url ht ⟨turns, _, answer, hwent, hsent⟩
  exact ⟨turns, r, sent, answer, hcarried.went, hsent, hurl⟩

/-- The backend of the account. -/
def plainBackend : Backend := ⟨plainAccount, 0⟩

theorem exists_value_plainAccount : ∃ v, Account.ofValue v = .ok plainAccount :=
  ⟨.table [("endpoint", .text "acct.example.net"), ("bucket", .text "up")], rfl⟩

/-- An upload to a key that goes down, up and down again. -/
def wanderingUpload : Upload where
  key := "a/../k"
  remotePath := "up/a/../k"
  lease := Identifier.numbered 1

theorem began_wanderingUpload : Began plainBackend wanderingUpload := by
  let created : Except Fault Remote.Response := .ok { operation := .create, status := 201 }
  have hbegin : Went (plainBackend.beginUpload "a/../k").run [⟨_, created⟩] (.ok wanderingUpload) :=
    Upload.runs_beginUpload.mpr ⟨1, created, rfl, rfl⟩
  exact ⟨"a/../k", _, wanderingUpload, 0, runs_run_map.mpr ⟨_, hbegin, rfl⟩, rfl⟩

theorem requests_spelled_abort :
    Began plainBackend wanderingUpload ∧ ∃ turns result sent answer,
      Went (plainTransport.carry (plainBackend.perform (.abortUpload (.upload wanderingUpload)))).run
        turns result ∧
        sending sent answer ∈ turns ∧ Contained plainBackend.rootPath sent.url := by
  obtain ⟨hground, -⟩ := grounded_of_plain plain_plainAccount ofAccount_plainAccount
  obtain ⟨v, hv⟩ := exists_value_plainAccount
  have hfits : Writable plainTransport (wanderingUpload.appendRequest none .close) := by decide +kernel
  obtain ⟨turns, result, sent, answer, hwent, hsent, -⟩ :=
    exists_went_sending (b := plainBackend) hfits hground
    (c := .abortUpload (.upload wanderingUpload))
    fun answer => ⟨_, runs_run_map.mpr ⟨_, Upload.runs_abortUpload.mpr ⟨answer, rfl, rfl⟩, rfl⟩⟩
  have hbegan : ∀ u ∈ (Command.abortUpload (.upload wanderingUpload)).upload?, Began plainBackend u := by
    rintro u ⟨⟩
    exact began_wanderingUpload
  obtain ⟨key, hkey, -, -, hcontained⟩ := requests_spelled (b := plainBackend) plain_plainAccount hv
    ofAccount_plainAccount rfl (by decide) (by decide) hbegan turns result sent answer hwent hsent
  cases hkey with
  | upload hu =>
    obtain rfl := Option.some_inj.mp hu
    exact ⟨began_wanderingUpload, turns, result, sent, answer, hwent, hsent, hcontained (by decide)⟩

/-- A key that leads above its start is looked for outside the root. -/
theorem request_above_root :
    plainAccount.Plain ∧ (∃ v, Account.ofValue v = .ok plainAccount) ∧
      Remote.Transport.ofAccount plainAccount = .ok plainTransport ∧ plainAccount.bucket ≠ "" ∧
      Undotted plainAccount.bucket ∧ ∃ turns result sent answer,
        Went (plainTransport.carry (plainBackend.perform (.get "../x" {}))).run turns result ∧
          sending sent answer ∈ turns ∧ sent.url.path = "/webhdfs/v1/x" ∧
          ¬ Contained plainBackend.rootPath sent.url := by
  obtain ⟨hground, -⟩ := grounded_of_plain plain_plainAccount ofAccount_plainAccount
  have hfits : Writable plainTransport
      { operation := .openFile, path := "up/../x", params := [("read", "true")], stream := true } := by
    decide +kernel
  obtain ⟨turns, result, sent, answer, hwent, hsent, hurl⟩ :=
    exists_went_sending (b := plainBackend) hfits hground
    (c := .get "../x" {}) fun answer => ⟨_, went_get.mpr ⟨answer, rfl, rfl⟩⟩
  have hpath : sent.url.path = "/webhdfs/v1/x" := by
    rw [hurl]
    exact (by decide +kernel : addressed "up/../x" = "/webhdfs/v1/x")
  have hdecode : Text.Percent.decode sent.url.path.toList = Utf8.encode "/webhdfs/v1/x" := by
    rw [hpath]
    decide +kernel
  refine ⟨plain_plainAccount, exists_value_plainAccount, ofAccount_plainAccount, by decide, by decide,
    turns, result, sent, answer, hwent, hsent, hpath, ?_⟩
  intro hcontained
  rcases (contained_iff hdecode).mp hcontained with h | ⟨rest, h⟩
  · exact absurd h (by decide)
  · have hlength := congrArg String.length h
    rw [String.length_append, String.length_append] at hlength
    exact absurd hlength (Nat.ne_of_lt (Nat.lt_add_right _ (by decide)))

end Backend

end LakeStore
