import LakeStore.Proofs.Deletion
import LakeStore.Proofs.Upload.Outcome

/-!
A batch of deletions does not depend on the order in which its keys are given.

The order of keys separates every two different ones, so lists with the same keys have one order of
deletion, and the batches are one dialogue: whatever they are answered, they send the same requests, write
the same records and end in the same way. A batch goes on as long as each request takes effect, and the
first one that does not is its last.
-/

namespace LakeStore

namespace Key

theorem deletedBy_antisymm {k l : String} (hkl : deletedBy k l = true)
    (hlk : deletedBy l k = true) : k = l := by
  rw [deletedBy_iff] at hkl hlk
  rcases hkl with hkl | ⟨heq, hkl⟩ <;> rcases hlk with hlk | ⟨heq', hlk⟩
  · omega
  · omega
  · omega
  · exact le_antisymm hkl hlk

/-- There is one order for the keys of a batch. -/
theorem deletionOrder_eq_of_perm {keys keys' : List String} (h : keys.Perm keys') :
    deletionOrder keys = deletionOrder keys' :=
  List.Perm.eq_of_pairwise (fun _ _ _ _ => deletedBy_antisymm) (pairwise_deletionOrder keys)
    (pairwise_deletionOrder keys') (((perm_deletionOrder keys).trans h).trans (perm_deletionOrder keys').symm)

end Key

namespace Backend

open Dialogue
open Remote (Request Response)

/-- A transport whose replies are told by the requests that were sent so far, the one to be answered being
the last. -/
abbrev Replies := List Request → Except Fault Response

/-- The counterpart that answers by such replies. -/
def recalling (reply : Replies) (q : Request) (sent : List Request) : Except Fault Response × List Request :=
  (reply (sent ++ [q]), sent ++ [q])

/-- A batch of deletions over such a transport. -/
def batch (b : Backend) (reply : Replies) (keys : List String) (serials : Nat) :
    Outcome Remote.protocol (List Request) (Except Fault Unit) :=
  run (P := Remote.protocol) (recalling reply) (b.deleteAll keys).run serials []

/-- Each of some requests, sent one after the other, takes effect. -/
def TakeEffect (reply : Replies) (sent : List Request) : Prop :=
  ∀ before q later, sent = before ++ q :: later → effect (reply (before ++ [q])) = .ok true

/-- How deletions end that are asked for one after the other. -/
inductive Ended (b : Backend) (reply : Replies) : List String → List Request → Except Fault Unit → Prop
  /-- All of them take effect. -/
  | all {keys : List String} : TakeEffect reply (keys.map b.deletion) →
      Ended b reply keys (keys.map b.deletion) (.ok ())
  /-- One of them fails, and it is the last that is asked for. -/
  | failed (done : List String) {rest : List String} {key : String} {fault : Fault} :
      TakeEffect reply (done.map b.deletion) →
      deleted key (effect (reply ((done ++ [key]).map b.deletion))) = .error fault →
      Ended b reply (done ++ key :: rest) ((done ++ [key]).map b.deletion) (.error fault)

variable {b : Backend} {reply : Replies} {keys : List String} {key : String} {sent : List Request}
  {r : Except Fault Unit}

theorem takeEffect_nil : TakeEffect reply [] := by
  intro before q later h
  simp at h

theorem takeEffect_cons {q : Request} (hq : effect (reply [q]) = .ok true)
    (h : TakeEffect (fun later => reply (q :: later)) sent) : TakeEffect reply (q :: sent) := by
  intro before p later hsplit
  cases before with
  | nil =>
    obtain ⟨rfl, -⟩ := List.cons.inj hsplit
    exact hq
  | cons first before =>
    obtain ⟨rfl, hrest⟩ := List.cons.inj hsplit
    exact h before p later hrest

/-- A deletion that takes effect is followed by the others. -/
theorem Ended.cons (hkey : effect (reply [b.deletion key]) = .ok true)
    (h : Ended b (fun later => reply (b.deletion key :: later)) keys sent r) :
    Ended b reply (key :: keys) (b.deletion key :: sent) r := by
  cases h with
  | all hall => exact .all (takeEffect_cons hkey hall)
  | @failed done rest last fault hdone hlast => exact .failed (key :: done) (takeEffect_cons hkey hdone) hlast

theorem deleted_eq_ok {x : Except Fault Bool} : deleted key x = .ok () ↔ x = .ok true := by
  rcases x with fault | _ | _ <;> simp [deleted]

/-- What is seen of deletions that are asked for after some requests. -/
def seenOf (b : Backend) (reply : Replies) (serials : Nat) (keys : List String) (before : List Request) :
    Except Fault Unit × List Request × List Request :=
  (run (P := Remote.protocol) (recalling reply) (keys.forM b.deleteKey).run serials before).seen

/-- One deletion sends one request, and the others follow if it takes effect. -/
theorem seenOf_cons (serials : Nat) (before : List Request) :
    seenOf b reply serials (key :: keys) before =
      match deleted key (effect (reply (before ++ [b.deletion key]))) with
      | .ok _ =>
        let rest := seenOf b reply serials keys (before ++ [b.deletion key])
        (rest.1, b.deletion key :: rest.2.1, rest.2.2)
      | .error fault => (.error fault, [b.deletion key], before ++ [b.deletion key]) := by
  have hsilent : ((key :: keys).forM b.deleteKey).run.silent = .ask (b.deletion key) fun answer =>
      after (fun _ => (keys.forM b.deleteKey).run.silent) (deleted key (effect answer)) := by
    rw [List.forM_eq_forM, List.forM_cons, silent_run_bind, silent_deleteKey]
    rfl
  rw [seenOf, ← seen_silent, hsilent, seen_ask]
  show (let rest := (run (P := Remote.protocol) (recalling reply)
      (after _ (deleted key (effect (reply _)))) serials (before ++ [b.deletion key])).seen
    (rest.1, b.deletion key :: rest.2.1, rest.2.2)) = _
  cases deleted key (effect (reply (before ++ [b.deletion key]))) with
  | error fault => rfl
  | ok _ => rw [after_ok, seen_silent]; rfl

/-- What deletions send after some requests, and how they end. -/
theorem deletions_end (b : Backend) (reply : Replies) (serials : Nat) (keys : List String)
    (before : List Request) :
    ∃ sent r, seenOf b reply serials keys before = (r, sent, before ++ sent) ∧
      Ended b (fun later => reply (before ++ later)) keys sent r := by
  induction keys generalizing before with
  | nil => exact ⟨[], .ok (), by rw [List.append_nil]; rfl, .all takeEffect_nil⟩
  | cons key keys ih =>
    rw [seenOf_cons]
    cases hkey : deleted key (effect (reply (before ++ [b.deletion key]))) with
    | error fault => exact ⟨[b.deletion key], .error fault, rfl, .failed [] takeEffect_nil hkey⟩
    | ok _ =>
      obtain ⟨sent, r, hrest, hended⟩ := ih (before ++ [b.deletion key])
      simp only [hrest, List.append_assoc, List.singleton_append] at hended ⊢
      exact ⟨b.deletion key :: sent, r, rfl, .cons (deleted_eq_ok.mp hkey) hended⟩

/-- Batches of the same keys, given in any order, are one: over every transport whose replies are told by
the requests they send the same requests, write the same records and end in the same way. The keys are asked
for in one order, repeated ones repeatedly, up to the first that fails. -/
theorem batch_eq_of_perm (b : Backend) {keys keys' : List String} (h : keys.Perm keys') (reply : Replies)
    (serials : Nat) :
    b.batch reply keys serials = b.batch reply keys' serials ∧
      (Key.deletionOrder keys).Perm keys ∧
      Key.deletionOrder (Key.deletionOrder keys) = Key.deletionOrder keys ∧
      Ended b reply (Key.deletionOrder keys) (Event.questions (b.batch reply keys serials).events)
        (b.batch reply keys serials).value := by
  have hperm := Key.perm_deletionOrder keys
  refine ⟨?_, hperm, Key.deletionOrder_eq_of_perm hperm, ?_⟩
  · rw [batch, batch, deleteAll, deleteAll, Key.deletionOrder_eq_of_perm h]
  · obtain ⟨sent, r, hseen, hended⟩ := deletions_end b reply serials (Key.deletionOrder keys) []
    have hbatch : (b.batch reply keys serials).seen = (r, sent, sent) := by
      rw [batch, ← seen_silent, deleteAll, silent_observed, seen_silent]
      exact hseen
    obtain ⟨hvalue, hrest⟩ := Prod.mk.inj hbatch
    obtain ⟨hsent, -⟩ := Prod.mk.inj hrest
    rw [hvalue, hsent]
    exact hended

/-- A transport that loses every reply but the first. -/
def losing (sent : List Request) : Except Fault Response :=
  if sent.length = 1 then .ok taken
  else .error (.request { message := "lost", method := "DELETE", url := "/" })

/-- A key that is given twice, before and behind one that is deleted first. -/
theorem batch_eq_of_perm_repeated :
    ["a", "b/c", "a"].Perm ["b/c", "a", "a"] ∧
      Key.deletionOrder ["a", "b/c", "a"] = ["b/c", "a", "a"] ∧
      Backend.batch ⟨{ endpoint := "a.b" }, 0⟩ losing ["a", "b/c", "a"] 0 =
        Backend.batch ⟨{ endpoint := "a.b" }, 0⟩ losing ["b/c", "a", "a"] 0 ∧
      Ended ⟨{ endpoint := "a.b" }, 0⟩ losing ["b/c", "a", "a"]
        (Event.questions (Backend.batch ⟨{ endpoint := "a.b" }, 0⟩ losing ["a", "b/c", "a"] 0).events)
        (Backend.batch ⟨{ endpoint := "a.b" }, 0⟩ losing ["a", "b/c", "a"] 0).value := by
  have hperm : ["a", "b/c", "a"].Perm ["b/c", "a", "a"] := by decide
  have horder : Key.deletionOrder ["a", "b/c", "a"] = ["b/c", "a", "a"] :=
    (Key.deletionOrder_eq_of_perm hperm).trans (List.mergeSort_of_pairwise (by decide))
  obtain ⟨hbatch, -, -, hended⟩ := batch_eq_of_perm ⟨{ endpoint := "a.b" }, 0⟩ hperm losing 0
  rw [horder] at hended
  exact ⟨hperm, horder, hbatch, hended⟩

end Backend

end LakeStore
