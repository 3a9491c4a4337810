import Mathlib.Data.List.Pairwise
import Mathlib.Data.String.Basic
import LakeStore.Key

/-!
The order in which keys are deleted, and what it says of the paths that they stand for.

The order is total, so of two keys the one that comes later is known from the keys alone. Paths above others
come later than these whenever keys start with something and do not start with a delimiter: then a path that
is above another one has fewer delimiters, and the delimiters are all counted in the depth of its key.
-/

namespace LakeStore.Key

variable {k l m : String}

/-! ### The order -/

theorem deletedBy_iff : deletedBy k l = true ↔ depth l < depth k ∨ depth k = depth l ∧ k ≤ l := by
  rw [deletedBy]
  by_cases h : depth k = depth l
  · rw [if_pos h, decide_eq_true_iff, not_lt]
    constructor
    · intro hkl; exact .inr ⟨h, hkl⟩
    · rintro (hlt | ⟨-, hkl⟩)
      · omega
      · exact hkl
  · rw [if_neg h, decide_eq_true_iff]
    constructor
    · intro hlt; exact .inl hlt
    · rintro (hlt | ⟨heq, -⟩)
      · exact hlt
      · exact absurd heq h

theorem deletedBy_trans (k l m : String) (hkl : deletedBy k l = true) (hlm : deletedBy l m = true) :
    deletedBy k m = true := by
  rw [deletedBy_iff] at *
  rcases hkl with hkl | ⟨hkl, hle⟩ <;> rcases hlm with hlm | ⟨hlm, hle'⟩
  · left; omega
  · left; omega
  · left; omega
  · exact .inr ⟨hkl.trans hlm, hle.trans hle'⟩

theorem deletedBy_total (k l : String) : (deletedBy k l || deletedBy l k) = true := by
  rw [Bool.or_eq_true, deletedBy_iff, deletedBy_iff]
  rcases Nat.lt_trichotomy (depth k) (depth l) with hlt | heq | hgt
  · exact .inr (.inl hlt)
  · rcases le_total k l with hle | hle
    · exact .inl (.inr ⟨heq, hle⟩)
    · exact .inr (.inr ⟨heq.symm, hle⟩)
  · exact .inl (.inl hgt)

theorem pairwise_deletionOrder (keys : List String) :
    (deletionOrder keys).Pairwise fun k l => deletedBy k l = true :=
  List.pairwise_mergeSort deletedBy_trans deletedBy_total keys

theorem perm_deletionOrder (keys : List String) : (deletionOrder keys).Perm keys :=
  List.mergeSort_perm keys deletedBy

theorem mem_deletionOrder {keys : List String} : k ∈ deletionOrder keys ↔ k ∈ keys :=
  (perm_deletionOrder keys).mem_iff

theorem pairwise_or {α : Type} {R : α → α → Prop} {xs : List α} (h : xs.Pairwise R) {a b : α} (ha : a ∈ xs)
    (hb : b ∈ xs) (hab : a ≠ b) : R a b ∨ R b a := by
  have hsymm : Std.Symm fun a b => R a b ∨ R b a := ⟨fun _ _ => Or.symm⟩
  have heither : xs.Pairwise fun a b => R a b ∨ R b a := h.imp fun hab => .inl hab
  exact heither.forall ha hb hab

/-- No key comes before one that it is related to exactly if the relation runs against the order. -/
theorem pairwise_deletionOrder_iff {R : String → String → Prop} (hR : ∀ k, ¬ R k k) (keys : List String) :
    (deletionOrder keys).Pairwise (fun k l => ¬ R k l) ↔
      ∀ k ∈ keys, ∀ l ∈ keys, R k l → depth k < depth l ∨ depth k = depth l ∧ l < k := by
  have hsorted := pairwise_deletionOrder keys
  constructor
  · intro h k hk l hl hkl
    have hne : k ≠ l := by rintro rfl; exact hR k hkl
    -- of two different keys one comes first, and it is not `k`
    rcases pairwise_or (hsorted.and h) (mem_deletionOrder.mpr hk) (mem_deletionOrder.mpr hl) hne with
      ⟨-, hno⟩ | ⟨hlk, -⟩
    · exact absurd hkl hno
    · rcases deletedBy_iff.mp hlk with hlt | ⟨heq, hle⟩
      · exact .inl hlt
      · exact .inr ⟨heq.symm, lt_of_le_of_ne hle hne.symm⟩
  · intro h
    refine hsorted.imp_of_mem fun {a b} ha hb hab hR => ?_
    rcases h a (mem_deletionOrder.mp ha) b (mem_deletionOrder.mp hb) hR with hlt | ⟨heq, hlt⟩
    all_goals rcases deletedBy_iff.mp hab with hab | ⟨hab, hle⟩
    · omega
    · omega
    · omega
    · exact absurd hle (not_le.mpr hlt)

/-! ### Paths -/

/-- A path is properly above another one: it is the empty path, or the other one goes on behind it and a
delimiter. -/
def Above (p q : String) : Prop := q ≠ p ∧ (p = "" ∨ ∃ rest, q = glue p rest)

theorem not_above_self (p : String) : ¬ Above p p := fun h => h.1 rfl

/-- A key that starts with something, and not with a delimiter. -/
def Plain (key : String) : Prop := ∃ c ∈ (stem key).toList.head?, c ≠ delimiter

theorem Plain.trimStart_stem (h : Plain k) : Text.trimStart isDelimiter (stem k) = stem k := by
  obtain ⟨c, hc, hne⟩ := h
  obtain ⟨rest, hrest⟩ := List.head?_eq_some_iff.mp hc
  rw [Text.trimStart, hrest, List.dropWhile_cons_of_neg (by simpa [isDelimiter] using hne), ← hrest,
    String.ofList_toList]

theorem Plain.stem_ne (h : Plain k) : stem k ≠ "" := by
  rintro he
  obtain ⟨c, hc, -⟩ := h
  rw [he] at hc
  exact nomatch hc

theorem Plain.remotePath_stem (h : Plain k) (bucket : String) :
    remotePath bucket (stem k) = if bucket = "" then stem k else glue bucket (stem k) := by
  rw [remotePath, h.trimStart_stem]
  simp only [if_neg h.stem_ne]

theorem glue_glue (p q r : String) : glue (glue p q) r = glue p (glue q r) := by
  simp only [glue, String.append_assoc]

theorem glue_right_inj {p q r : String} : glue p q = glue p r ↔ q = r := String.append_right_inj _

theorem glue_ne_empty (p q : String) : glue p q ≠ "" := by
  intro h
  have hlist := congrArg String.toList h
  simp [glue] at hlist

theorem countP_glue (p q : String) :
    (glue p q).toList.countP isDelimiter = p.toList.countP isDelimiter + q.toList.countP isDelimiter + 1 := by
  rw [glue, String.toList_append, String.toList_append, List.countP_append, List.countP_append]
  have hone : ("/" : String).toList.countP isDelimiter = 1 := by decide
  omega

/-- A path above another one belongs to a key that lies less deep. -/
theorem Plain.depth_lt {bucket : String} (hk : Plain k) (hl : Plain l)
    (h : Above (remotePath bucket (stem k)) (remotePath bucket (stem l))) : depth k < depth l := by
  obtain ⟨-, h⟩ := h
  rw [hk.remotePath_stem, hl.remotePath_stem] at h
  have hbelow : ∃ rest, stem l = glue (stem k) rest := by
    by_cases hb : bucket = ""
    · rw [if_pos hb, if_pos hb] at h
      exact h.resolve_left hk.stem_ne
    · rw [if_neg hb, if_neg hb] at h
      obtain ⟨rest, hrest⟩ := h.resolve_left (glue_ne_empty _ _)
      rw [glue_glue] at hrest
      exact ⟨rest, glue_right_inj.mp hrest⟩
  obtain ⟨rest, hrest⟩ := hbelow
  rw [depth, depth, hrest, countP_glue]
  omega

end LakeStore.Key
