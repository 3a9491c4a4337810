import LakeStore.Backend.Command
import LakeStore.Proofs.Upload.Tenure

/-!
Any number of uploads side by side.

A caller begins uploads, goes on with whichever it likes, and does other things in between; any call may be
answered in any way, and whatever becomes of it the next one may follow. Two things can be read off the
calls alone, without their answers: how much was declared for each upload so far, and so at which offset
each of its requests goes.
-/

namespace LakeStore.Upload

open Backend (Command Reply)
open Dialogue
open Lease (param)
open Remote (Request SyncFlag went_of_says settle)

/-- A call that a caller makes. Uploads are told apart by the order in which they began. -/
inductive Act where
  | begins (key : String)
  | adds (i : Nat) (body : Blob.Content) (size : Int)
  | commits (i : Nat)
  | aborts (i : Nat)
  /-- A call that has nothing to do with an upload of the backend. -/
  | does (c : Command)

/-- A command that neither begins an upload nor comes with the handle of one. -/
def IsApart : Command → Prop
  | .beginUpload _ | .addPart (.upload _) _ _ | .commitUpload (.upload _) | .abortUpload (.upload _) => False
  | _ => True

namespace Act

variable (held : List Handle)

/-- The command of a call, given the handles that the caller holds. -/
inductive Calls : Act → Command → Prop
  | begins (key : String) : Calls (.begins key) (.beginUpload key)
  | adds {i : Nat} {h : Handle} (body : Blob.Content) (size : Int) : held[i]? = some h →
      Calls (.adds i body size) (.addPart h body size)
  | commits {i : Nat} {h : Handle} : held[i]? = some h → Calls (.commits i) (.commitUpload h)
  | aborts {i : Nat} {h : Handle} : held[i]? = some h → Calls (.aborts i) (.abortUpload h)
  | does {c : Command} : IsApart c → Calls (.does c) c

/-- The place of the upload that a call goes on with. -/
def on? : Act → Option Nat
  | .adds i _ _ | .commits i | .aborts i => some i
  | .begins _ | .does _ => none

/-- The size that a call declares for the upload in a place. -/
def declares (i : Nat) : Act → Int
  | .adds j _ size => if j = i then size else 0
  | _ => 0

end Act

/-- A handle for which another `size` bytes were declared. -/
def grown (size : Int) : Handle → Handle
  | .upload u => .upload (u.extend size)
  | h => h

/-- A call, what was said in it, and how it ended. -/
structure Entry where
  act : Act
  turns : List (Turn Remote.protocol)
  result : Except Fault Reply

namespace Entry

/-- The upload that a call began. -/
def issued? (e : Entry) : Option Upload :=
  match e.act, e.result with
  | .begins _, .ok (.upload u) => some u
  | _, _ => none

/-- The handles of the caller after a call: a new one, or the one of the command as the call leaves it. -/
def leaves (held : List Handle) (c : Command) (e : Entry) : List Handle :=
  match e.act.on? with
  | some i => held.modify i fun h => c.handle?.getD h
  | none => held ++ e.issued?.toList.map .upload

/-- Whether a call goes on with no other upload than the one in a place. -/
def concerns (i : Nat) (e : Entry) : Bool := e.act.on?.all (· == i)

end Entry

/-- A caller makes calls one after the other, whatever they are answered. -/
inductive Course (b : Backend) : List Handle → List Entry → List Handle → Prop
  | nil {held : List Handle} : Course b held [] held
  | cons {held final : List Handle} {c : Command} {e : Entry} {es : List Entry} : e.act.Calls held c →
      Went (b.perform c).run e.turns e.result → Course b (e.leaves held c) es final →
      Course b held (e :: es) final

/-- The uploads that calls began. -/
def issued (es : List Entry) : List Upload := es.filterMap Entry.issued?

/-- The sum of the sizes that calls declared for the upload in a place. -/
def declared (i : Nat) (es : List Entry) : Int := (es.map fun e => e.act.declares i).sum

/-- The handles that calls leave, by what they declared: each upload as it began, but for its size. -/
def ledger (es : List Entry) : List Handle :=
  (issued es).mapIdx fun i u => .upload { u with size := declared i es }

/-- The conversation of a call on an upload, once `sum` bytes were declared for it. -/
inductive Accounted (u : Upload) (sum : Int) : Act → List (Turn Remote.protocol) → Prop
  | added {i : Nat} {body : Blob.Content} {size : Int} {x : Turn Remote.protocol} :
      Appends u (some sum) "DATA" body x.question → (∀ f, ¬ RefusesOffset x.answer f) →
      Accounted u sum (.adds i body size) [x]
  | probed {i : Nat} {body : Blob.Content} {size : Int} {x probe : Turn Remote.protocol} {f : RemoteFailure} :
      Appends u (some sum) "DATA" body x.question → RefusesOffset x.answer f →
      Appends u (some (sum + size)) "CLOSE" (.whole []) probe.question →
      Accounted u sum (.adds i body size) [x, probe]
  | committed {i : Nat} {x : Turn Remote.protocol} : Appends u (some sum) "CLOSE" (.whole []) x.question →
      Accounted u sum (.commits i) [x]
  | aborted {i : Nat} {x : Turn Remote.protocol} : Appends u none "CLOSE" (.whole []) x.question →
      Accounted u sum (.aborts i) [x]

/-- The conversation of the call that began an upload: its file is created under its lease, and its handle
counts nothing. -/
inductive Begun (b : Backend) (u : Upload) : Act → List (Turn Remote.protocol) → Prop
  | intro {x : Turn Remote.protocol} : u.remotePath = b.path u.key → u.size = 0 →
      x.question = createRequest b.account.filePermission u.remotePath u.lease → Begun b u (.begins u.key) [x]

/-! ### What one call says -/

section Call

variable {b : Backend} {u : Upload} {turns : List (Turn Remote.protocol)} {r : Except Fault Reply}

theorem Accounted.resized {sum size : Int} {a : Act} (h : Accounted { u with size := size } sum a turns) :
    Accounted u sum a turns := by
  cases h with
  | added hx hf => exact .added hx.resized hf
  | probed hx hf hprobe => exact .probed hx.resized hf hprobe.resized
  | committed hx => exact .committed hx.resized
  | aborted hx => exact .aborted hx.resized

theorem accounted_adds {i : Nat} {body : Blob.Content} {size : Int}
    (h : Went (b.perform (.addPart (.upload u) body size)).run turns r) :
    Accounted u u.size (.adds i body size) turns := by
  obtain ⟨_, h, -⟩ := runs_run_map.mp h
  cases runs_addPart.mp h with
  | answered hserves hf =>
    obtain rfl := hserves
    exact .added appends_partRequest hf
  | probed hserves hf hprobe =>
    obtain rfl := hserves
    obtain rfl := hprobe
    exact .probed appends_partRequest hf (appends_closeRequest (u := u.extend size)).resized

theorem accounted_commits {i : Nat} (h : Went (b.perform (.commitUpload (.upload u))).run turns r) :
    Accounted u u.size (.commits i) turns := by
  obtain ⟨_, h, -⟩ := runs_run_map.mp h
  obtain ⟨answer, rfl, -⟩ := runs_commitUpload.mp h
  exact .committed appends_closeRequest

theorem accounted_aborts {i : Nat} (h : Went (b.perform (.abortUpload (.upload u))).run turns r) :
    Accounted u u.size (.aborts i) turns := by
  obtain ⟨_, h, -⟩ := runs_run_map.mp h
  obtain ⟨answer, rfl, -⟩ := runs_abortUpload.mp h
  exact .aborted (appends_appendRequest _ .close _)

/-- A call that goes on with an upload asks what its handle accounts for. -/
theorem accounted_of_calls {held : List Handle} {c : Command} {a : Act} {i : Nat} (ha : a.Calls held c)
    (hon : a.on? = some i) (hheld : held[i]? = some (.upload u)) (h : Went (b.perform c).run turns r) :
    Accounted u u.size a turns := by
  cases ha with
  | begins key => cases hon
  | does hc => cases hon
  | adds body size hi =>
    obtain rfl := Option.some.inj hon
    obtain rfl := Option.some.inj (hheld.symm.trans hi)
    exact accounted_adds h
  | commits hi =>
    obtain rfl := Option.some.inj hon
    obtain rfl := Option.some.inj (hheld.symm.trans hi)
    exact accounted_commits h
  | aborts hi =>
    obtain rfl := Option.some.inj hon
    obtain rfl := Option.some.inj (hheld.symm.trans hi)
    exact accounted_aborts h

/-- An upload comes from the call that creates its file. -/
theorem begun_of_issued {held : List Handle} {c : Command} {e : Entry} (hc : e.act.Calls held c)
    (h : Went (b.perform c).run e.turns e.result) (hu : e.issued? = some u) : Begun b u e.act e.turns := by
  obtain ⟨act, turns, result⟩ := e
  cases hc with
  | begins key =>
    obtain ⟨r', hbegin, rfl⟩ := runs_run_map.mp h
    obtain ⟨serial, answer, rfl, rfl⟩ := runs_beginUpload.mp hbegin
    cases hanswer : settle false answer with
    | error fault => rw [hanswer] at hu; cases hu
    | ok x =>
      rw [hanswer] at hu
      obtain rfl := Option.some.inj hu
      exact .intro rfl rfl rfl
  | _ => cases hu

end Call

/-! ### The handles of a caller -/

section Ledger

variable {b : Backend} {es : List Entry} {e : Entry} {i j : Nat} {u : Upload} {held final : List Handle}
  {c : Command}

theorem issued_append_singleton : issued (es ++ [e]) = issued es ++ e.issued?.toList := by
  rw [issued, List.filterMap_append, List.filterMap_cons, List.filterMap_nil]
  cases e.issued? <;> rfl

theorem declared_append_singleton : declared i (es ++ [e]) = declared i es + e.act.declares i := by
  rw [declared, List.map_append, List.sum_append, List.map_singleton, List.sum_singleton]; rfl

theorem getElem?_ledger :
    (ledger es)[i]? = (issued es)[i]?.map fun u => .upload { u with size := declared i es } :=
  List.getElem?_mapIdx ..

/-- A call declares nothing for the uploads that it does not go on with. -/
theorem declares_of_ne {a : Act} (h : a.on? ≠ some i) : a.declares i = 0 := by
  cases a with
  | adds j body size => exact if_neg fun hj => h (congrArg some hj)
  | _ => rfl

theorem issued?_of_on? (h : e.act.on? = some i) : e.issued? = none := by
  obtain ⟨act, turns, result⟩ := e
  cases act <;> first | rfl | cases h

/-- A call on an upload changes the size of its handle by what it declares, and nothing else. -/
theorem ledger_append_on (hon : e.act.on? = some i) :
    ledger (es ++ [e]) = (ledger es).modify i (grown (e.act.declares i)) := by
  refine List.ext_getElem? fun j => ?_
  rw [List.getElem?_modify, getElem?_ledger, getElem?_ledger, issued_append_singleton, issued?_of_on? hon,
    declared_append_singleton, Option.toList_none, List.append_nil]
  cases (issued es)[j]? with
  | none => rfl
  | some u =>
    by_cases hj : i = j
    · subst hj; simp [grown, extend]
    · rw [declares_of_ne fun h => hj (Option.some.inj (hon.symm.trans h))]
      simp [hj]

theorem declared_append_of_not_on (hon : e.act.on? = none) : declared i (es ++ [e]) = declared i es := by
  rw [declared_append_singleton, declares_of_ne (by rw [hon]; exact Option.some_ne_none i |>.symm), add_zero]

/-- A call that begins an upload adds its handle to those of the caller. -/
theorem ledger_append_of_not_on (hon : e.act.on? = none) (hfresh : ∀ u ∈ e.issued?, u.size = 0)
    (hunbegun : declared (issued es).length es = 0) :
    ledger (es ++ [e]) = ledger es ++ e.issued?.toList.map .upload := by
  rw [ledger, issued_append_singleton]
  simp only [declared_append_of_not_on hon]
  cases hu : e.issued? with
  | none => simp [ledger]
  | some u =>
    rw [Option.toList_some, List.mapIdx_concat, hunbegun, ← hfresh u hu]; rfl

/-- The handles that a caller holds are those of the ledger, and nothing was declared for an upload that has
not begun. -/
structure Balanced (es : List Entry) (held : List Handle) : Prop where
  ledger : held = ledger es
  unbegun : ∀ i, (issued es).length ≤ i → declared i es = 0

theorem Balanced.nil : Balanced [] [] := ⟨rfl, fun _ _ => rfl⟩

theorem Balanced.getElem? (h : Balanced es held) {hd : Handle} (hi : held[i]? = some hd) :
    ∃ u, (issued es)[i]? = some u ∧ hd = .upload { u with size := declared i es } := by
  rw [h.ledger, getElem?_ledger, Option.map_eq_some_iff] at hi
  obtain ⟨u, hu, rfl⟩ := hi
  exact ⟨u, hu, rfl⟩

/-- The handle of a call that goes on with an upload, as the call leaves it. -/
theorem Act.Calls.handle? {a : Act} (h : a.Calls held c) (hon : a.on? = some i) :
    ∃ hd, held[i]? = some hd ∧ c.handle? = some (grown (a.declares i) hd) := by
  cases h with
  | begins key => cases hon
  | does hc => cases hon
  | @adds j hd body size hj =>
    obtain rfl := Option.some.inj hon
    refine ⟨hd, hj, ?_⟩
    rw [Act.declares, if_pos rfl]
    cases hd <;> rfl
  | @commits j hd hj | @aborts j hd hj =>
    obtain rfl := Option.some.inj hon
    refine ⟨hd, hj, ?_⟩
    cases hd with
    | upload u => exact congrArg (fun n => some (Handle.upload { u with size := n })) (add_zero u.size).symm
    | other type => rfl

theorem leaves_of_on (hc : e.act.Calls held c) (hon : e.act.on? = some i) :
    e.leaves held c = held.modify i (grown (e.act.declares i)) := by
  obtain ⟨hd, hi, hhandle⟩ := hc.handle? hon
  rw [Entry.leaves, hon, hhandle]
  refine List.ext_getElem? fun j => ?_
  rw [List.getElem?_modify, List.getElem?_modify]
  by_cases hj : i = j
  · subst hj; rw [hi]; simp
  · simp [hj]

/-- A call asks nothing of the handles but the one that it goes on with. -/
theorem Act.Calls.transfer {a : Act} (h : a.Calls held c) {held' : List Handle}
    (hi : ∀ i, a.on? = some i → held'[i]? = held[i]?) : a.Calls held' c := by
  cases h with
  | begins key => exact .begins key
  | adds body size hj => exact .adds body size ((hi _ rfl).trans hj)
  | commits hj => exact .commits ((hi _ rfl).trans hj)
  | aborts hj => exact .aborts ((hi _ rfl).trans hj)
  | does hc => exact .does hc

theorem leaves_of_not_on (hon : e.act.on? = none) :
    e.leaves held c = held ++ e.issued?.toList.map .upload := by
  rw [Entry.leaves, hon]

/-- Two callers hold as many handles, and the same one in a place. -/
def Alike (i : Nat) (held held' : List Handle) : Prop := held'.length = held.length ∧ held'[i]? = held[i]?

/-- Callers that are alike in a place can make the same calls on its upload, and stay alike. -/
theorem Alike.concerned {held' : List Handle} (h : Alike i held held') (hc : e.act.Calls held c)
    (he : e.concerns i = true) : e.act.Calls held' c ∧ Alike i (e.leaves held c) (e.leaves held' c) := by
  have hplace : ∀ j, e.act.on? = some j → held'[j]? = held[j]? := fun j hon => by
    rw [Entry.concerns, hon, Option.all_some, beq_iff_eq] at he
    rw [he]
    exact h.2
  have hc' : e.act.Calls held' c := hc.transfer hplace
  refine ⟨hc', ?_⟩
  rcases hon : e.act.on? with _ | j
  · rw [leaves_of_not_on hon, leaves_of_not_on hon]
    exact ⟨by rw [List.length_append, List.length_append, h.1],
      by rw [List.getElem?_append, List.getElem?_append, h.1, h.2]⟩
  · rw [leaves_of_on hc hon, leaves_of_on hc' hon]
    exact ⟨by rw [List.length_modify, List.length_modify, h.1],
      by rw [List.getElem?_modify, List.getElem?_modify, h.2]⟩

/-- A call on another upload leaves callers alike. -/
theorem Alike.unconcerned {held' : List Handle} (h : Alike i held held') (hc : e.act.Calls held c)
    (he : e.concerns i = false) : Alike i (e.leaves held c) held' := by
  rcases hon : e.act.on? with _ | j
  · rw [Entry.concerns, hon] at he
    cases he
  · rw [Entry.concerns, hon, Option.all_some, beq_eq_false_iff_ne] at he
    rw [leaves_of_on hc hon]
    exact ⟨h.1.trans (List.length_modify ..).symm, h.2.trans (List.getElem?_modify_ne _ _ he).symm⟩

/-- One call keeps the balance. -/
theorem Balanced.step (h : Balanced es held) (hc : e.act.Calls held c)
    (hw : Went (b.perform c).run e.turns e.result) : Balanced (es ++ [e]) (e.leaves held c) := by
  rcases hon : e.act.on? with _ | i
  · refine ⟨?_, fun i hi => ?_⟩
    · have hfresh : ∀ u ∈ e.issued?, u.size = 0 := fun u hu => by
        obtain ⟨act, turns, result⟩ := e
        cases begun_of_issued hc hw hu with | intro _ hsize _ => exact hsize
      rw [leaves_of_not_on hon, h.ledger, ledger_append_of_not_on hon hfresh (h.unbegun _ le_rfl)]
    · rw [issued_append_singleton, List.length_append] at hi
      rw [declared_append_of_not_on hon, h.unbegun i (by omega)]
  · obtain ⟨hd, hi, -⟩ := hc.handle? hon
    obtain ⟨u, hu, -⟩ := h.getElem? hi
    refine ⟨by rw [leaves_of_on hc hon, h.ledger, ledger_append_on hon], fun j hj => ?_⟩
    rw [issued_append_singleton, issued?_of_on? hon, Option.toList_none, List.append_nil] at hj
    have hne : i ≠ j := fun hij => by
      rw [hij, List.getElem?_eq_none hj] at hu; cases hu
    rw [declared_append_singleton, h.unbegun j hj, declares_of_ne fun h =>
      hne (Option.some.inj (hon.symm.trans h)), add_zero]

/-- A call leaves alone every upload that it does not go on with. -/
theorem getElem?_leaves (hc : e.act.Calls held c) (hon : e.act.on? ≠ some i) {hd : Handle}
    (hi : held[i]? = some hd) : (e.leaves held c)[i]? = some hd := by
  rcases hother : e.act.on? with _ | j
  · rw [leaves_of_not_on hother, List.getElem?_append_left (List.getElem?_eq_some_iff.mp hi).1, hi]
  · rw [leaves_of_on hc hother, List.getElem?_modify, hi]
    exact congrArg some (if_neg fun (hji : j = i) => hon (hji ▸ hother))

end Ledger

/-! ### Whole courses -/

section Course

variable {b : Backend} {es before after : List Entry} {held final : List Handle}

theorem course_append :
    Course b held (before ++ after) final ↔ ∃ mid, Course b held before mid ∧ Course b mid after final := by
  induction before generalizing held with
  | nil =>
    constructor
    · exact fun h => ⟨held, .nil, h⟩
    · rintro ⟨mid, h, hafter⟩; cases h; exact hafter
  | cons e before ih =>
    constructor
    · intro h
      cases h with | cons hc hw hrest =>
        obtain ⟨mid, hbefore, hafter⟩ := ih.mp hrest
        exact ⟨mid, .cons hc hw hbefore, hafter⟩
    · rintro ⟨mid, h, hafter⟩
      cases h with | cons hc hw hbefore => exact .cons hc hw (ih.mpr ⟨mid, hbefore, hafter⟩)

/-- A course keeps the balance. -/
theorem Course.balanced (h : Course b held es final) (hb : Balanced before held) :
    Balanced (before ++ es) final := by
  induction h generalizing before with
  | nil => rwa [List.append_nil]
  | @cons held final c e es hc hw _ ih => rw [List.append_cons]; exact ih (hb.step hc hw)

/-- At a call of a course, the handles are balanced and the call is made on them. -/
theorem Course.split {e : Entry} (h : Course b [] (before ++ e :: after) final) :
    ∃ held c, Balanced before held ∧ e.act.Calls held c ∧ Went (b.perform c).run e.turns e.result := by
  obtain ⟨held, hbefore, hrest⟩ := course_append.mp h
  cases hrest with | cons hc hw _ => exact ⟨held, _, hbefore.balanced .nil, hc, hw⟩

/-- Without the calls on other uploads a course is one still, and it leaves the handle of the upload the
same. -/
theorem Course.concerning (h : Course b held es final) (i : Nat) {held' : List Handle}
    (halike : Alike i held held') :
    ∃ final', Course b held' (es.filter (Entry.concerns i)) final' ∧ final'[i]? = final[i]? := by
  induction h generalizing held' with
  | nil => exact ⟨held', .nil, halike.2⟩
  | @cons held final c e es hc hw _ ih =>
    cases he : e.concerns i with
    | true =>
      obtain ⟨hc', hleft⟩ := halike.concerned hc he
      obtain ⟨final', hrest, hfinal⟩ := ih hleft
      rw [List.filter_cons_of_pos he]
      exact ⟨final', .cons hc' hw hrest, hfinal⟩
    | false =>
      rw [List.filter_cons_of_neg (by rw [he]; exact Bool.false_ne_true)]
      exact ih (halike.unconcerned hc he)

/-- The accounts of a course: which handles it leaves, and what was said about each of them. -/
structure Accounts (b : Backend) (es : List Entry) (final : List Handle) : Prop where
  /-- At every point, the handles are those that were issued, each with the size that was declared for it so
  far. -/
  handles : ∀ before after, es = before ++ after →
    Course b [] before (ledger before) ∧ Course b (ledger before) after final
  settled : final = ledger es
  begun : ∀ before e after u, es = before ++ e :: after → e.issued? = some u → Begun b u e.act e.turns
  accounted : ∀ before e after i, es = before ++ e :: after → e.act.on? = some i →
    ∃ u, (issued before)[i]? = some u ∧ Accounted u (declared i before) e.act e.turns
  kept : ∀ before e after i h, es = before ++ e :: after → e.act.on? ≠ some i → (ledger before)[i]? = some h →
    (ledger (before ++ [e]))[i]? = some h
  /-- What is said about an upload is said without the calls on other uploads, too. -/
  apart : ∀ i, ∃ final', Course b [] (es.filter (Entry.concerns i)) final' ∧ final'[i]? = final[i]?

/-- However calls on uploads follow each other, and whatever they are answered, each upload is accounted for
by what was declared for it. -/
theorem accounts_of_course (h : Course b [] es final) : Accounts b es final where
  settled := (h.balanced .nil).ledger
  handles before after hes := by
    obtain ⟨mid, hbefore, hafter⟩ := course_append.mp (hes ▸ h)
    obtain rfl := (hbefore.balanced .nil).ledger
    exact ⟨hbefore, hafter⟩
  begun before e after u hes hu := by
    obtain ⟨held, c, -, hc, hw⟩ := Course.split (hes ▸ h)
    exact begun_of_issued hc hw hu
  accounted before e after i hes hon := by
    obtain ⟨held, c, hb, hc, hw⟩ := Course.split (hes ▸ h)
    obtain ⟨hd, hi, -⟩ := hc.handle? hon
    obtain ⟨u, hu, rfl⟩ := hb.getElem? hi
    exact ⟨u, hu, (accounted_of_calls hc hon hi hw).resized⟩
  kept before e after i hd hes hon hi := by
    obtain ⟨held, c, hb, hc, hw⟩ := Course.split (hes ▸ h)
    rw [← (hb.step hc hw).ledger]
    exact getElem?_leaves hc hon (hb.ledger ▸ hi)
  apart i := h.concerning i ⟨rfl, rfl⟩

theorem exists_course_cons {a : Act} {acts : List Act} {c : Command} {turns : List (Turn Remote.protocol)}
    {r : Except Fault Reply} (hc : a.Calls held c) (hw : Went (b.perform c).run turns r)
    (h : ∃ es final, Course b (Entry.leaves held c ⟨a, turns, r⟩) es final ∧ es.map Entry.act = acts) :
    ∃ es final, Course b held es final ∧ es.map Entry.act = a :: acts := by
  obtain ⟨es, final, hcourse, rfl⟩ := h
  exact ⟨⟨a, turns, r⟩ :: es, final, .cons hc hw hcourse, rfl⟩

/-- Two uploads side by side: a part of the one is refused and found in the file, and the other one is given
up after the answer to its only part was lost. -/
theorem accounts_of_two_uploads :
    ∃ es final, Course ⟨{ endpoint := "a.b" }, 0⟩ [] es final ∧ Accounts ⟨{ endpoint := "a.b" }, 0⟩ es final ∧
      es.map Entry.act = [.begins "k", .begins "l", .adds 0 (.whole [97]) 1, .adds 1 (.whole [98, 99]) 2,
        .does (.abortUpload (.other "h")), .adds 0 (.whole [100]) 1, .aborts 1, .commits 0] := by
  have hlost (u : Upload) : Went (Backend.addPart (.upload u) (.whole [98, 99]) 2).2.run
      [⟨u.partRequest (.whole [98, 99]), .error (.request ⟨"timed out", "POST", "", true, none⟩)⟩] _ :=
    runs_addPart.mpr (.answered rfl (by rintro f ⟨hf, -⟩; cases hf))
  have hforeign : Went (Backend.abortUpload (.other "h")).run [] (.error (.handle "h")) :=
    runs_silent.mp (by rw [Backend.abortUpload, Backend.silent_observed]; exact .done _ _)
  have haborted (u : Upload) : Went (Backend.abortUpload (.upload u)).run
      [⟨u.appendRequest none .close, .ok { operation := .append, status := 200 }⟩] _ :=
    runs_abortUpload.mpr ⟨_, rfl, rfl⟩
  have hcommitted (u : Upload) : Went (Backend.commitUpload (.upload u)).run
      [⟨u.closeRequest, .ok { operation := .append, status := 200 }⟩] _ := runs_commitUpload.mpr ⟨_, rfl, rfl⟩
  refine Exists.imp (fun es => Exists.imp fun final (h : Course _ _ es final ∧ es.map Entry.act = _) =>
    ⟨h.1, accounts_of_course h.1, h.2⟩) ?_
  refine exists_course_cons (.begins _)
    (runs_run_map.mpr ⟨_, went_of_says (says_beginUpload_created _ "k" 1), rfl⟩) ?_
  refine exists_course_cons (.begins _)
    (runs_run_map.mpr ⟨_, went_of_says (says_beginUpload_created _ "l" 2), rfl⟩) ?_
  refine exists_course_cons (.adds _ _ rfl)
    (runs_run_map.mpr ⟨_, went_of_says (says_addPart_appended _ _ _ []), rfl⟩) ?_
  refine exists_course_cons (.adds _ _ rfl) (runs_run_map.mpr ⟨_, hlost _, rfl⟩) ?_
  refine exists_course_cons (.does trivial) (runs_run_map.mpr ⟨_, hforeign, rfl⟩) ?_
  refine exists_course_cons (.adds _ _ rfl)
    (runs_run_map.mpr ⟨_, went_of_says (says_addPart_landed _ _ _ []), rfl⟩) ?_
  refine exists_course_cons (.aborts rfl) (runs_run_map.mpr ⟨_, haborted _, rfl⟩) ?_
  refine exists_course_cons (.commits rfl) (runs_run_map.mpr ⟨_, hcommitted _, rfl⟩) ?_
  exact ⟨[], _, .nil, rfl⟩

end Course

end LakeStore.Upload
