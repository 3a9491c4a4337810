import Mathlib.Data.List.DropRight
import LakeStore.Proofs.Key

/-!
The names on the way to a path.

A path is a text of names with delimiters between them, and trailing delimiters say nothing. The remote path
of a child goes on by one name behind the path of its parent, whatever delimiters the key of the parent
starts with.
-/

namespace LakeStore.Key

/-- A name of a file or directory. -/
def IsName (name : String) : Prop := name ≠ "" ∧ delimiter ∉ name.toList

instance : DecidablePred IsName :=
  fun name => inferInstanceAs (Decidable (name ≠ "" ∧ delimiter ∉ name.toList))

/-- A path without the slashes at its end. -/
def untailed (path : String) : String := String.ofList (path.toList.rdropWhile (· = '/'))

/-- The path of what lies below a path: the names on the way, with a slash between any two. -/
def joined (path : String) (names : List String) : String :=
  "/".intercalate (if path = "" then names else path :: names)

/-- The names on the way to a path, trailing delimiters aside. -/
def segments (path : String) : List String :=
  if stem path = "" then [] else ((stem path).toList.splitOn delimiter).map String.ofList

/-- The key of what lies below a key, by the names on the way. -/
def descendant (key : String) (names : List String) : String := names.foldl child key

variable {p q n s bucket : String} {r : List String}

/-! ### Leading and trailing delimiters -/

theorem rdropWhile_append {α : Type} (f : α → Bool) (xs ys : List α) :
    (xs ++ ys).rdropWhile f = if ys.rdropWhile f = [] then xs.rdropWhile f else xs ++ ys.rdropWhile f := by
  simp only [List.rdropWhile, List.reverse_append, List.dropWhile_append, List.isEmpty_iff,
    List.reverse_eq_nil_iff]
  by_cases h : ys.reverse.dropWhile f = []
  · rw [if_pos h, if_pos h]
  · rw [if_neg h, if_neg h, List.reverse_append, List.reverse_reverse]

theorem dropWhile_rdropWhile {α : Type} (f : α → Bool) :
    ∀ xs : List α, (xs.rdropWhile f).dropWhile f = (xs.dropWhile f).rdropWhile f
  | [] => rfl
  | x :: xs => by
    have hcons : (x :: xs).rdropWhile f = if xs.rdropWhile f = [] then [x].rdropWhile f
      else x :: xs.rdropWhile f :=
      rdropWhile_append f [x] xs
    by_cases hx : f x = true
    · rw [List.dropWhile_cons_of_pos hx, ← dropWhile_rdropWhile f xs, hcons]
      by_cases hxs : xs.rdropWhile f = []
      · rw [if_pos hxs, hxs, List.rdropWhile_singleton, if_pos hx]
      · rw [if_neg hxs, List.dropWhile_cons_of_pos hx]
    · rw [List.dropWhile_cons_of_neg hx, hcons]
      by_cases hxs : xs.rdropWhile f = []
      · rw [if_pos hxs, List.rdropWhile_singleton, if_neg hx, List.dropWhile_cons_of_neg hx]
      · rw [if_neg hxs, List.dropWhile_cons_of_neg hx]

theorem toList_stem (p : String) : (stem p).toList = p.toList.rdropWhile isDelimiter := String.toList_ofList

theorem toList_trimStart (p : String) :
    (Text.trimStart isDelimiter p).toList = p.toList.dropWhile isDelimiter := String.toList_ofList

theorem toList_glue (p q : String) : (glue p q).toList = p.toList ++ delimiter :: q.toList := by
  rw [glue, String.toList_append, String.toList_append, List.append_assoc]; rfl

theorem toList_ne_nil : p.toList ≠ [] ↔ p ≠ "" := not_congr String.toList_eq_nil_iff

@[simp] theorem stem_stem (p : String) : stem (stem p) = stem p := by
  rw [← String.toList_inj, toList_stem, toList_stem, List.rdropWhile_idempotent]

theorem depth_stem (p : String) : depth (stem p) = depth p := by rw [depth, depth, stem_stem]

theorem stem_trimStart (p : String) :
    stem (Text.trimStart isDelimiter p) = Text.trimStart isDelimiter (stem p) := by
  rw [← String.toList_inj, toList_stem, toList_trimStart, toList_trimStart, toList_stem, dropWhile_rdropWhile]

theorem stem_glue (p : String) (hq : stem q ≠ "") : stem (glue p q) = glue p (stem q) := by
  have hne : q.toList.rdropWhile isDelimiter ≠ [] := toList_stem q ▸ toList_ne_nil.mpr hq
  have hcons :
      (delimiter :: q.toList).rdropWhile isDelimiter = delimiter :: q.toList.rdropWhile isDelimiter :=
    (rdropWhile_append isDelimiter [delimiter] q.toList).trans (if_neg hne)
  rw [← String.toList_inj, toList_stem, toList_glue, toList_glue, rdropWhile_append, hcons,
    if_neg (List.cons_ne_nil _ _), toList_stem]

theorem trimStart_glue (n : String) (hp : Text.trimStart isDelimiter p ≠ "") :
    Text.trimStart isDelimiter (glue p n) = glue (Text.trimStart isDelimiter p) n := by
  have hne : p.toList.dropWhile isDelimiter ≠ [] := toList_trimStart p ▸ toList_ne_nil.mpr hp
  rw [← String.toList_inj, toList_trimStart, toList_glue, toList_glue, toList_trimStart,
    List.dropWhile_append, if_neg (by rwa [List.isEmpty_iff])]

/-- Only the empty key has no stem behind its leading delimiters. -/
theorem trimStart_ne (hs : stem s = s) (hne : s ≠ "") : Text.trimStart isDelimiter s ≠ "" := by
  intro h
  have hall : ∀ c ∈ s.toList, isDelimiter c = true := by
    rw [← List.dropWhile_eq_nil_iff, ← toList_trimStart, h]; rfl
  rw [← List.rdropWhile_eq_nil_iff, ← toList_stem, hs] at hall
  exact toList_ne_nil.mpr hne hall

theorem trimStart_trimStart (p : String) :
    Text.trimStart isDelimiter (Text.trimStart isDelimiter p) = Text.trimStart isDelimiter p := by
  rw [← String.toList_inj, toList_trimStart, toList_trimStart, List.dropWhile_idempotent]

/-- What is left behind the leading delimiters is not only delimiters. -/
theorem stem_trimStart_ne (hp : Text.trimStart isDelimiter p ≠ "") :
    stem (Text.trimStart isDelimiter p) ≠ "" := by
  intro h
  have hall := List.rdropWhile_eq_nil_iff.mp ((toList_stem _).symm.trans (congrArg String.toList h))
  have hstart : (Text.trimStart isDelimiter p).toList.dropWhile isDelimiter = [] :=
    List.dropWhile_eq_nil_iff.mpr hall
  rw [← toList_trimStart, trimStart_trimStart] at hstart
  exact toList_ne_nil.mpr hp hstart

/-! ### Names -/

namespace IsName

theorem not_isDelimiter (hn : IsName n) {c : Char} (hc : c ∈ n.toList) : isDelimiter c = false := by
  rw [isDelimiter, decide_eq_false_iff_not]
  rintro rfl
  exact hn.2 hc

theorem stem_eq (hn : IsName n) : stem n = n := by
  rw [← String.toList_inj, toList_stem, List.rdropWhile_eq_self_iff]
  intro hne
  rw [hn.not_isDelimiter (List.getLast_mem hne)]; exact Bool.false_ne_true

theorem trimStart_eq (hn : IsName n) : Text.trimStart isDelimiter n = n := by
  rw [← String.toList_inj, toList_trimStart, List.dropWhile_eq_self_iff]
  intro hpos
  rw [hn.not_isDelimiter (List.getElem_mem hpos)]; exact Bool.false_ne_true

theorem countP_eq (hn : IsName n) : n.toList.countP isDelimiter = 0 :=
  List.countP_eq_zero.mpr fun c hc => by rw [hn.not_isDelimiter hc]; exact Bool.false_ne_true

end IsName

theorem stem_placeholder (p : String) : stem (placeholder p) = stem p := by
  have hlist : (placeholder p).toList = p.toList ++ [delimiter] := String.toList_append
  rw [← String.toList_inj, toList_stem, toList_stem, hlist, rdropWhile_append, if_pos (by rfl)]

theorem stem_child (s : String) (hn : IsName n) : stem (child s n) = child s n := by
  rw [child]
  by_cases hne : s = ""
  · rw [if_pos hne, hn.stem_eq]
  · rw [if_neg hne, stem_glue s (hn.stem_eq.symm ▸ hn.1), hn.stem_eq]

theorem child_ne (hn : IsName n) : child s n ≠ "" := by
  rw [child]
  by_cases hne : s = ""
  · rw [if_pos hne]; exact hn.1
  · rw [if_neg hne]; exact glue_ne_empty s n

/-- A child lies one level below its parent. -/
theorem depth_child (hs : stem s = s) (hn : IsName n) :
    depth (child s n) = if s = "" then 1 else depth s + 1 := by
  rw [depth, stem_child s hn, child]
  by_cases hne : s = ""
  · rw [if_pos hne, if_pos hne, hn.countP_eq]
  · rw [if_neg hne, if_neg hne, countP_glue, hn.countP_eq, depth, hs]

/-! ### Descendants -/

theorem descendant_concat (s : String) (r : List String) (n : String) :
    descendant s (r ++ [n]) = child (descendant s r) n := by
  rw [descendant, descendant, List.foldl_append]; rfl

theorem stem_descendant (hs : stem s = s) (hr : ∀ n ∈ r, IsName n) :
    stem (descendant s r) = descendant s r := by
  induction r generalizing s with
  | nil => exact hs
  | cons n ns ih =>
    exact ih (stem_child s (hr n List.mem_cons_self)) fun m hm => hr m (List.mem_cons_of_mem _ hm)

/-- With every name the way goes one level deeper; the children of the root are as deep as the root. -/
theorem depth_descendant (hs : stem s = s) (hr : ∀ n ∈ r, IsName n) (hne : r ≠ []) :
    depth (descendant s r) = (if s = "" then 0 else depth s) + r.length := by
  induction r generalizing s with
  | nil => exact absurd rfl hne
  | cons n ns ih =>
    have hn := hr n List.mem_cons_self
    have hchild : depth (child s n) = (if s = "" then 0 else depth s) + 1 := by
      rw [depth_child hs hn]; split <;> rfl
    by_cases hns : ns = []
    · subst hns; exact hchild
    · have hrest := ih (stem_child s hn) (fun m hm => hr m (List.mem_cons_of_mem _ hm)) hns
      rw [if_neg (child_ne hn), hchild] at hrest
      show depth (descendant (child s n) ns) = _
      rw [hrest, List.length_cons]; omega

/-! ### Paths written out -/

theorem stem_eq_untailed (p : String) : stem p = untailed p := rfl

@[simp] theorem joined_nil (s : String) : joined s [] = s := by
  rw [joined]
  split
  · next h => rw [h]; exact String.intercalate_nil
  · exact String.intercalate_singleton

/-- The first name is joined to the path, and the others to both. -/
theorem joined_cons (s : String) (hn : n ≠ "") : joined s (n :: r) = joined (child s n) r := by
  by_cases hs : s = ""
  · simp only [joined, child, if_pos hs, if_neg hn]
  · have hchild : child s n = glue s n := if_neg hs
    rw [joined, if_neg hs, joined, hchild, if_neg (glue_ne_empty s n), glue, String.intercalate_cons_cons,
      String.intercalate_cons_append]

/-- Below a path goes what is joined to it. -/
theorem descendant_eq_joined (s : String) (hr : ∀ n ∈ r, n ≠ "") : descendant s r = joined s r := by
  induction r generalizing s with
  | nil => exact (joined_nil s).symm
  | cons n ns ih =>
    rw [joined_cons s (hr n List.mem_cons_self)]
    exact ih (child s n) fun m hm => hr m (List.mem_cons_of_mem _ hm)

theorem trimStart_descendant (hstart : Text.trimStart isDelimiter s = s) (hne : s ≠ "") :
    Text.trimStart isDelimiter (descendant s r) = descendant s r := by
  induction r generalizing s with
  | nil => exact hstart
  | cons n ns ih =>
    have hchild : child s n = glue s n := if_neg hne
    have hglue : Text.trimStart isDelimiter (glue s n) = glue s n := by
      rw [trimStart_glue n (hstart.symm ▸ hne), hstart]
    show Text.trimStart isDelimiter (descendant (child s n) ns) = descendant (child s n) ns
    rw [hchild]
    exact ih hglue (glue_ne_empty s n)

theorem descendant_ne (hne : s ≠ "") : descendant s r ≠ "" := by
  induction r generalizing s with
  | nil => exact hne
  | cons n ns ih =>
    have hchild : child s n = glue s n := if_neg hne
    exact ih (hchild ▸ glue_ne_empty s n)

theorem glue_descendant (p : String) (hne : s ≠ "") : glue p (descendant s r) = descendant (glue p s) r := by
  induction r generalizing s with
  | nil => rfl
  | cons n ns ih =>
    have hchild : child s n = glue s n := if_neg hne
    have hglue : child (glue p s) n = glue p (glue s n) := by
      rw [child, if_neg (glue_ne_empty p s), glue_glue]
    show glue p (descendant (child s n) ns) = descendant (child (glue p s) n) ns
    rw [hchild, hglue, ih (glue_ne_empty s n)]

/-- Below a bucket a path goes on by the names on the way. -/
theorem remotePath_descendant (bucket : String) (hr : ∀ n ∈ r, IsName n) :
    remotePath bucket (descendant "" r) = joined bucket r := by
  rw [← descendant_eq_joined bucket fun n hn => (hr n hn).1]
  cases r with
  | nil =>
    have htrim : Text.trimStart isDelimiter "" = "" := by decide
    rw [descendant, List.foldl_nil, remotePath, htrim]
    split
    · next hb => exact hb.symm
    · rfl
  | cons n ns =>
    have hn := hr n List.mem_cons_self
    have hfirst : descendant "" (n :: ns) = descendant n ns := rfl
    have hstart : Text.trimStart isDelimiter (descendant n ns) = descendant n ns :=
      trimStart_descendant hn.trimStart_eq hn.1
    rw [hfirst, remotePath, hstart]
    by_cases hb : bucket = ""
    · rw [if_pos hb, hb]; rfl
    · have hchild : child bucket n = glue bucket n := if_neg hb
      show _ = descendant (child bucket n) ns
      rw [if_neg hb, if_neg (descendant_ne hn.1), glue_descendant bucket hn.1, hchild]

/-! ### The way to a path -/

theorem segments_stem (p : String) : segments (stem p) = segments p := by
  rw [segments, segments, stem_stem]

theorem segments_name (hn : IsName n) : segments n = [n] := by
  rw [segments, hn.stem_eq, if_neg hn.1, List.splitOn_eq_singleton hn.2, List.map_singleton,
    String.ofList_toList]

theorem segments_glue (hq : stem q = q) (hne : q ≠ "") (hn : IsName n) :
    segments (glue q n) = segments q ++ [n] := by
  have hstem : stem (glue q n) = glue q n := by rw [stem_glue q (hn.stem_eq.symm ▸ hn.1), hn.stem_eq]
  rw [segments, hstem, if_neg (glue_ne_empty q n), toList_glue, List.splitOn_append_cons_self,
    List.map_append, List.splitOn_eq_singleton hn.2, List.map_singleton, String.ofList_toList, segments,
    hq, if_neg hne]

/-- Trailing delimiters of a key say nothing of where its path leads. -/
theorem segments_remotePath_stem (bucket p : String) :
    segments (remotePath bucket (stem p)) = segments (remotePath bucket p) := by
  rw [remotePath, remotePath, ← stem_trimStart]
  by_cases hb : bucket = ""
  · simp only [if_pos hb, segments_stem]
  simp only [if_neg hb]
  by_cases hp : Text.trimStart isDelimiter p = ""
  · rw [hp]; rfl
  have hne := stem_trimStart_ne hp
  rw [if_neg hne, if_neg hp, ← stem_glue bucket hne, segments_stem]

theorem segments_remotePath_child (hb : stem bucket = bucket) (hs : stem s = s) (hn : IsName n) :
    segments (remotePath bucket (child s n)) = segments (remotePath bucket s) ++ [n] := by
  rw [child]
  by_cases hne : s = ""
  · have htrim : Text.trimStart isDelimiter "" = "" := by decide
    rw [if_pos hne, hne, remotePath, remotePath, hn.trimStart_eq, htrim]
    by_cases hbucket : bucket = ""
    · simp only [if_pos hbucket]; rw [segments_name hn]; rfl
    · simp only [if_neg hbucket, if_neg hn.1, if_true]
      exact segments_glue hb hbucket hn
  · have hstart := trimStart_ne hs hne
    have hstem : stem (Text.trimStart isDelimiter s) = Text.trimStart isDelimiter s := by
      rw [stem_trimStart, hs]
    rw [if_neg hne, remotePath, remotePath, trimStart_glue n hstart]
    by_cases hbucket : bucket = ""
    · simp only [if_pos hbucket]
      exact segments_glue hstem hstart hn
    · simp only [if_neg hbucket, if_neg hstart, if_neg (glue_ne_empty _ _)]
      rw [← glue_glue]
      refine segments_glue ?_ (glue_ne_empty _ _) hn
      rw [stem_glue bucket (hstem.symm ▸ hstart), hstem]

/-- The path of a descendant goes on by the names on the way. -/
theorem segments_remotePath_descendant (hb : stem bucket = bucket) (hs : stem s = s)
    (hr : ∀ n ∈ r, IsName n) :
    segments (remotePath bucket (descendant s r)) = segments (remotePath bucket s) ++ r := by
  induction r generalizing s with
  | nil => exact (List.append_nil _).symm
  | cons n ns ih =>
    have hn := hr n List.mem_cons_self
    have hrest := ih (stem_child s hn) fun m hm => hr m (List.mem_cons_of_mem _ hm)
    show segments (remotePath bucket (descendant (child s n) ns)) = _
    rw [hrest, segments_remotePath_child hb hs hn, List.append_assoc, List.singleton_append]

/-! ### Spellings of a path -/

/-- Whether a key spells a path below the root: the names on the way with delimiters between them, and any
number of delimiters before and behind. -/
def Spells (key : String) (names : List String) : Prop := Text.trim isDelimiter key = descendant "" names

instance (key : String) (names : List String) : Decidable (Spells key names) :=
  inferInstanceAs (Decidable (Text.trim isDelimiter key = descendant "" names))

theorem trim_eq (p : String) : Text.trim isDelimiter p = stem (Text.trimStart isDelimiter p) := rfl

theorem trim_stem (p : String) : Text.trim isDelimiter (stem p) = Text.trim isDelimiter p := by
  rw [trim_eq, trim_eq, stem_trimStart, stem_stem, ← stem_trimStart]

/-- Where a key leads does not depend on its outer delimiters. -/
theorem stem_remotePath_trim (bucket p : String) :
    stem (remotePath bucket (Text.trim isDelimiter p)) = stem (remotePath bucket p) := by
  have hstart : Text.trimStart isDelimiter (Text.trim isDelimiter p) = Text.trim isDelimiter p := by
    rw [trim_eq, ← stem_trimStart, trimStart_trimStart]
  rw [remotePath, remotePath, hstart]
  by_cases hb : bucket = ""
  · simp only [if_pos hb]; rw [trim_eq, stem_stem]
  simp only [if_neg hb]
  by_cases hp : Text.trimStart isDelimiter p = ""
  · rw [trim_eq, hp]; rfl
  · have hne : Text.trim isDelimiter p ≠ "" := stem_trimStart_ne hp
    rw [if_neg hne, if_neg hp, stem_glue bucket (by rwa [trim_eq, stem_stem]), stem_glue bucket hne,
      trim_eq, stem_stem]

theorem trim_child (hs : stem s = s) (hn : IsName n) :
    Text.trim isDelimiter (child s n) = child (Text.trim isDelimiter s) n := by
  rw [child]
  by_cases hne : s = ""
  · rw [if_pos hne, hne, trim_eq, hn.trimStart_eq, hn.stem_eq]; rfl
  · have hstart := trimStart_ne hs hne
    have hstem : Text.trim isDelimiter s = Text.trimStart isDelimiter s := by rw [trim_eq, stem_trimStart, hs]
    rw [if_neg hne, trim_eq, trimStart_glue n hstart, stem_glue _ (hn.stem_eq.symm ▸ hn.1), hn.stem_eq,
      child, hstem, if_neg hstart]

namespace Spells

variable {names : List String}

theorem stem (h : Spells p names) : Spells (stem p) names := (trim_stem p).trans h

/-- The key of a child spells the path that goes on by its name. -/
theorem child (h : Spells p names) (hn : IsName n) : Spells (child (Key.stem p) n) (names ++ [n]) := by
  rw [Spells, trim_child (stem_stem p) hn, h.stem, descendant_concat]

theorem descendant (h : Spells p names) (hr : ∀ n ∈ r, IsName n) :
    Spells (descendant (Key.stem p) r) (names ++ r) := by
  induction r generalizing p names with
  | nil => rw [List.append_nil]; exact h.stem
  | cons n ns ih =>
    have hn := hr n List.mem_cons_self
    have hrest := ih (h.child hn) fun m hm => hr m (List.mem_cons_of_mem _ hm)
    rw [stem_child _ hn, List.append_assoc] at hrest
    exact hrest

theorem placeholder (h : Spells p names) : Spells (placeholder p) names := by
  rw [Spells, ← trim_stem, stem_placeholder, trim_stem]; exact h

theorem stem_remotePath (h : Spells p names) (bucket : String) :
    Key.stem (remotePath bucket p) = Key.stem (remotePath bucket (Key.descendant "" names)) := by
  rw [← stem_remotePath_trim, h]

/-- Trailing slashes aside, where a key leads is written out by the names that it spells. -/
theorem untailed_remotePath (h : Spells p names) (hnames : ∀ n ∈ names, IsName n) (bucket : String) :
    untailed (remotePath bucket p) = untailed (joined bucket names) := by
  rw [← stem_eq_untailed, ← stem_eq_untailed, h.stem_remotePath, remotePath_descendant bucket hnames]

end Spells

theorem spells_descendant (hr : ∀ n ∈ r, IsName n) : Spells (descendant "" r) r := by
  have hroot : Spells "" [] := by decide
  exact hroot.descendant hr

/-! ### Keys that end with the delimiter -/

theorem namesDirectory_placeholder (p : String) : namesDirectory (placeholder p) = true := by
  have hlist : (placeholder p).toList = p.toList ++ [delimiter] := String.toList_append
  rw [namesDirectory, hlist, List.getLast?_concat]; rfl

end LakeStore.Key
