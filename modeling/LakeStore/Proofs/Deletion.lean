import LakeStore.Proofs.Exchange
import LakeStore.Proofs.Key

/-!
What a batch of deletions asks, and in which order.

A batch that succeeds asks one question for each of its keys, in the order of the keys. That is not always
the order of the paths: a key may start with delimiters, which count in its depth and not in its path, and
the key of the bucket itself is as deep as a key of one segment. Other keys are deleted children first.
-/

namespace LakeStore

open Dialogue
open Remote (Request Response settle Payload.effect)

namespace Backend

/-- How a deletion ends: a path at which there is nothing to delete is a failure. -/
def deleted (key : String) : Except Fault Bool → Except Fault Unit
  | .ok true => .ok ()
  | .ok false => .error (.store (.final .notFound ("nothing to delete at " ++ key) (.text key)))
  | .error fault => .error fault

/-- What an answer says of a request: whether it took effect. -/
def effect (answer : Except Fault Response) : Except Fault Bool :=
  settle false answer >>= fun response => response.decode Payload.effect

variable (b : Backend) {σ : Type} {serves : Request → σ → Except Fault Response → σ → Prop} {s t : σ}
  {r : Except Fault Unit}

/-- The request that deletes a key. -/
def deletion (key : String) : Request := deleteRequest (b.path (Key.stem key))

theorem silent_deleteKey (key : String) :
    (b.deleteKey key).run.silent = .ask (b.deletion key) fun answer =>
      .done (deleted key (effect answer)) := by
  rw [deleteKey, silent_run_bind, Remote.takesEffect, Remote.silent_fetch]
  refine congrArg (Dialogue.ask (P := Remote.protocol) _) (funext fun answer => ?_)
  show after _ (effect answer) = _
  rcases effect answer with fault | a
  · rfl
  · cases a <;> rfl

theorem runs_deleteKey {key : String} :
    Runs (P := Remote.protocol) serves (b.deleteKey key).run s r t ↔
      ∃ answer, serves (b.deletion key) s answer t ∧ r = deleted key (effect answer) :=
  runs_of_silent_eq (b.silent_deleteKey key)

theorem runs_deleteAll {keys : List String} :
    Runs (P := Remote.protocol) serves (b.deleteAll keys).run s r t ↔
      Runs (P := Remote.protocol) serves ((Key.deletionOrder keys).forM b.deleteKey).run s r t := by
  rw [← runs_silent, deleteAll, silent_observed, runs_silent]

/-- Deletions that all succeed ask one question each. -/
theorem asked_deletions : ∀ {keys : List String} {s t : σ} {before asked : List Request},
    Runs (P := Remote.protocol) (recorded serves) (keys.forM b.deleteKey).run (s, before) (.ok ())
      (t, asked) →
      asked = before ++ keys.map b.deletion
  | [], _, _, _, _, h => by
    obtain ⟨-, ht⟩ := runs_done_iff.mp h
    rw [List.map_nil, List.append_nil]; exact congrArg Prod.snd ht
  | key :: keys, s, t, before, asked, h => by
    rcases runs_run_bind.mp h with ⟨_, ⟨s', mid⟩, hkey, hrest⟩ | ⟨e, -, he⟩
    · obtain ⟨answer, ⟨-, hmid⟩, -⟩ := b.runs_deleteKey.mp hkey
      obtain rfl : mid = before ++ [b.deletion key] := hmid
      rw [asked_deletions hrest, List.map_cons, List.append_assoc, List.singleton_append]
    · exact nomatch he

/-- A remote at which every deletion takes effect. -/
def Willing (_ : Request) (_ : Unit) (answer : Except Fault Response) (_ : Unit) : Prop :=
  effect answer = .ok true

/-- The answer that a request took effect. -/
def taken : Response where
  operation := .delete
  status := 200
  body := Utf8.encode "\x7b\"boolean\":true\x7d"

theorem effect_taken : effect (.ok taken) = .ok true := by decide +kernel

/-- Such a remote lets every batch succeed. -/
theorem willing_deletions : ∀ (keys : List String) (before : List Request),
    Runs (P := Remote.protocol) (recorded Willing) (keys.forM b.deleteKey).run ((), before) (.ok ())
      ((), before ++ keys.map b.deletion)
  | [], before => by rw [List.map_nil, List.append_nil]; exact .done _ _
  | key :: keys, before => by
    have hkey : Runs (P := Remote.protocol) (recorded Willing) (b.deleteKey key).run ((), before) (.ok ())
        ((), before ++ [b.deletion key]) :=
      b.runs_deleteKey.mpr ⟨.ok taken, ⟨effect_taken, rfl⟩, by rw [effect_taken]; rfl⟩
    have hrest := willing_deletions keys (before ++ [b.deletion key])
    rw [List.append_assoc, List.singleton_append] at hrest
    exact runs_run_bind.mpr (.inl ⟨(), _, hkey, hrest⟩)

/-- A batch that succeeds asks for its keys in their order. No path is asked for before one below it exactly
if, of any two keys whose paths are so related, the one below comes first in the order of keys; and so it is
whenever all keys start with something that is no delimiter. -/
theorem children_first {keys : List String} {asked : List Request}
    (h : Runs (P := Remote.protocol) (recorded serves) (b.deleteAll keys).run (s, []) (.ok ()) (t, asked)) :
    asked = (Key.deletionOrder keys).map b.deletion ∧
      ((asked.map Request.path).Pairwise (fun p q => ¬ Key.Above p q) ↔
        ∀ k ∈ keys, ∀ l ∈ keys, Key.Above (b.deletion k).path (b.deletion l).path →
          Key.depth k < Key.depth l ∨ Key.depth k = Key.depth l ∧ l < k) ∧
      ((∀ k ∈ keys, Key.Plain k) → (asked.map Request.path).Pairwise fun p q => ¬ Key.Above p q) := by
  have hasked := b.asked_deletions (b.runs_deleteAll.mp h)
  rw [List.nil_append] at hasked
  have hiff := Key.pairwise_deletionOrder_iff
    (R := fun k l => Key.Above (b.deletion k).path (b.deletion l).path) (fun _ => Key.not_above_self _) keys
  rw [hasked, List.map_map, List.pairwise_map]
  exact ⟨rfl, hiff, fun hplain => hiff.mpr fun k hk l hl habove =>
    .inl ((hplain k hk).depth_lt (hplain l hl) habove)⟩

/-- A directory and two files below it, given in the wrong order. -/
theorem children_first_of_three :
    ∃ asked, Runs (P := Remote.protocol) (recorded Willing)
        (Backend.deleteAll ⟨{ endpoint := "a.b", bucket := "c" }, 0⟩ ["d/", "d/e/", "d/e/f"]).run
          ((), []) (.ok ())
        ((), asked) ∧
      (∀ k ∈ ["d/", "d/e/", "d/e/f"], Key.Plain k) ∧
      (asked.map Request.path).Pairwise fun p q => ¬ Key.Above p q := by
  have hrun := (Backend.runs_deleteAll ⟨{ endpoint := "a.b", bucket := "c" }, 0⟩).mpr
    (willing_deletions ⟨{ endpoint := "a.b", bucket := "c" }, 0⟩
      (Key.deletionOrder ["d/", "d/e/", "d/e/f"]) [])
  have hplain : ∀ k ∈ ["d/", "d/e/", "d/e/f"], Key.Plain k := by
    simp only [List.forall_mem_cons]
    exact ⟨⟨'d', rfl, by decide⟩, ⟨'d', rfl, by decide⟩, ⟨'d', rfl, by decide⟩, nofun⟩
  exact ⟨_, hrun, hplain, (children_first _ hrun).2.2 hplain⟩

/-- A directory whose key starts with delimiters is deleted before the file in it. -/
theorem parent_first :
    ∃ asked, Runs (P := Remote.protocol) (recorded Willing)
        (Backend.deleteAll ⟨{ endpoint := "a.b", bucket := "b" }, 0⟩ ["///a", "a/x"]).run ((), []) (.ok ())
        ((), asked) ∧
      asked.map Request.path = ["b/a", "b/a/x"] ∧ Key.Above "b/a" "b/a/x" := by
  have horder : Key.deletionOrder ["///a", "a/x"] = ["///a", "a/x"] :=
    List.mergeSort_of_pairwise (by decide)
  have hrun :=
    willing_deletions ⟨{ endpoint := "a.b", bucket := "b" }, 0⟩ (Key.deletionOrder ["///a", "a/x"]) []
  refine ⟨_, (Backend.runs_deleteAll _).mpr hrun, ?_, by decide, .inr ⟨"x", by decide⟩⟩
  rw [horder]; decide

end Backend

end LakeStore
