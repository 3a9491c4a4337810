import LakeStore.Proofs.Normal

/-!
Laws of the mapping from keys to paths.

A path is the bucket, or it goes on behind the bucket by one delimiter and the key without its leading ones;
so the path says all of the key but how many delimiters it starts with. Since an accepted bucket does not
start with a delimiter either, no path does, and a path that was mapped once may be mapped again below no
bucket. To go on to a child and to map a key come to the same in either order.
-/

namespace LakeStore.Key

variable {bucket k l c : String}

theorem trimStart_eq_self_iff : Text.trimStart isDelimiter k = k ↔ k.toList.head? ≠ some delimiter := by
  rw [← String.toList_inj, toList_trimStart, Text.dropWhile_eq_self_iff_head?]
  constructor
  · intro h hhead
    exact absurd (h delimiter hhead) (by decide)
  · intro h d hd
    rw [isDelimiter, decide_eq_false_iff_not]
    rintro rfl
    exact h hd

theorem remotePath_empty (k : String) : remotePath "" k = Text.trimStart isDelimiter k := by
  rw [remotePath, if_pos rfl]

theorem remotePath_of_ne (hb : bucket ≠ "") (k : String) :
    remotePath bucket k =
      if Text.trimStart isDelimiter k = "" then bucket else glue bucket (Text.trimStart isDelimiter k) := by
  rw [remotePath, if_neg hb]

/-- Below a bucket a path is the bucket, or it goes on by one delimiter and something else. -/
theorem remotePath_below (hb : bucket ≠ "") (k : String) :
    remotePath bucket k = bucket ∨
      ∃ d rest, d ≠ delimiter ∧ (remotePath bucket k).toList = bucket.toList ++ delimiter :: d :: rest := by
  rw [remotePath_of_ne hb]
  by_cases hk : Text.trimStart isDelimiter k = ""
  · exact .inl (if_pos hk)
  · obtain ⟨d, rest, hlist⟩ := List.exists_cons_of_ne_nil (toList_ne_nil.mpr hk)
    have hd : d ≠ delimiter := by
      have hhead := trimStart_eq_self_iff.mp (trimStart_trimStart k)
      rintro rfl
      exact hhead (by rw [hlist]; rfl)
    exact .inr ⟨d, rest, hd, by rw [if_neg hk, toList_glue, hlist]⟩

/-- No path starts with a delimiter, unless the bucket does. -/
theorem trimStart_remotePath (hb : Text.trimStart isDelimiter bucket = bucket) (k : String) :
    Text.trimStart isDelimiter (remotePath bucket k) = remotePath bucket k := by
  by_cases hne : bucket = ""
  · rw [hne, remotePath_empty, trimStart_trimStart]
  · rw [remotePath_of_ne hne]
    by_cases hk : Text.trimStart isDelimiter k = ""
    · rw [if_pos hk, hb]
    · rw [if_neg hk, trimStart_glue _ (hb.symm ▸ hne), hb]

/-- A path says all of its key but how many delimiters the key starts with. -/
theorem remotePath_inj :
    remotePath bucket k = remotePath bucket l ↔
    Text.trimStart isDelimiter k = Text.trimStart isDelimiter l := by
  refine ⟨fun h => ?_, fun h => by rw [remotePath, remotePath, h]⟩
  by_cases hb : bucket = ""
  · rwa [hb, remotePath_empty, remotePath_empty] at h
  · -- the bucket itself is no path that goes on behind the bucket
    have hlonger (p : String) : glue bucket p ≠ bucket := by
      intro heq
      have hlength := congrArg (fun s => s.toList.length) heq
      simp [toList_glue] at hlength
    rw [remotePath_of_ne hb, remotePath_of_ne hb] at h
    by_cases hk : Text.trimStart isDelimiter k = "" <;> by_cases hl : Text.trimStart isDelimiter l = ""
    · rw [hk, hl]
    · rw [if_pos hk, if_neg hl] at h
      exact absurd h.symm (hlonger _)
    · rw [if_neg hk, if_pos hl] at h
      exact absurd h (hlonger _)
    · rw [if_neg hk, if_neg hl] at h
      exact glue_right_inj.mp h

/-- The path of a child of the root. -/
theorem remotePath_child_root (hne : c ≠ "") (hc : Text.trimStart isDelimiter c = c) :
    remotePath bucket (child "" c) = child (remotePath bucket "") c := by
  have hroot : Text.trimStart isDelimiter "" = "" := by decide
  rw [child, if_pos rfl]
  by_cases hb : bucket = ""
  · rw [hb, remotePath_empty, remotePath_empty, hc, hroot, child, if_pos rfl]
  · rw [remotePath_of_ne hb, remotePath_of_ne hb, hc, hroot, if_neg hne, if_pos rfl, child, if_neg hb]

/-- The path of a child goes on by its name behind the path of its parent. -/
theorem remotePath_child (hk : stem k = k) (hne : c ≠ "") (hc : Text.trimStart isDelimiter c = c) :
    remotePath bucket (child k c) = child (remotePath bucket k) c := by
  by_cases hroot : k = ""
  · rw [hroot, remotePath_child_root hne hc]
  · have hstart := trimStart_ne hk hroot
    rw [child, if_neg hroot]
    by_cases hb : bucket = ""
    · rw [hb, remotePath_empty, remotePath_empty, trimStart_glue c hstart, child, if_neg hstart]
    · rw [remotePath_of_ne hb, remotePath_of_ne hb, trimStart_glue c hstart, if_neg (glue_ne_empty _ _),
        if_neg hstart, child, if_neg (glue_ne_empty _ _), glue_glue]

theorem stem_eq_self (hk : k.toList.getLast? ≠ some delimiter) : stem k = k := by
  rw [← String.toList_inj, toList_stem, Text.rdropWhile_eq_self_iff_getLast?]
  intro d hd
  rw [isDelimiter, decide_eq_false_iff_not]
  rintro rfl
  exact hk hd

/-- The laws of the mapping below the bucket of accepted settings: where paths lie, that they can be mapped
again below no bucket, which keys share one, and that the mapping goes along with the step to a child. -/
theorem remotePath_laws {v : Value} {a : Account} (h : Account.ofValue v = .ok a) (k : String) :
    (a.bucket ≠ "" → remotePath a.bucket k = a.bucket ∨
      ∃ d rest, d ≠ delimiter ∧ (remotePath a.bucket k).toList = a.bucket.toList ++ delimiter :: d :: rest) ∧
    (remotePath a.bucket k).toList.head? ≠ some delimiter ∧
    remotePath "" (remotePath a.bucket k) = remotePath a.bucket k ∧
    (∀ l, remotePath a.bucket k = remotePath a.bucket l ↔
      k.toList.dropWhile (· = delimiter) = l.toList.dropWhile (· = delimiter)) ∧
    (k.toList.getLast? ≠ some delimiter → ∀ c, c ≠ "" → c.toList.head? ≠ some delimiter →
      remotePath a.bucket (child k c) = child (remotePath a.bucket k) c) := by
  have hstart := trimStart_remotePath (Account.trimStart_bucket h) k
  refine ⟨fun hb => remotePath_below hb k, trimStart_eq_self_iff.mp hstart, ?_, fun l => ?_, ?_⟩
  · rw [remotePath_empty, hstart]
  · rw [remotePath_inj, ← String.toList_inj, toList_trimStart, toList_trimStart]
    rfl
  · intro hk c hne hc
    exact remotePath_child (stem_eq_self hk) hne (trimStart_eq_self_iff.mpr hc)

theorem remotePath_laws_slashes :
    ∃ a, Account.ofValue (.table [("endpoint", .text "a.b"), ("bucket", .text " /up// ")]) = .ok a ∧
      a.bucket = "up" ∧
      remotePath a.bucket "//x/y" = remotePath a.bucket "x/y" ∧
      remotePath a.bucket (child "//x/y" "z/") = child (remotePath a.bucket "x/y") "z/" := by
  obtain ⟨a, h, hbucket⟩ :
      ∃ a, Account.ofValue (.table [("endpoint", .text "a.b"), ("bucket", .text " /up// ")]) = .ok a ∧
        a.bucket = "up" := ⟨_, rfl, rfl⟩
  obtain ⟨-, -, -, hsame, hchild⟩ := remotePath_laws h "//x/y"
  have hpath := (hsame "x/y").mpr (by decide)
  exact ⟨a, h, hbucket, hpath, hpath ▸ hchild (by decide) "z/" (by decide) (by decide)⟩

end LakeStore.Key
