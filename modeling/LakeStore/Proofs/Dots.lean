import LakeStore.Http.Url
import LakeStore.Proofs.Percent

/-!
Paths without dot segments.

Segments are followed one by one: a dot stays where it is, two dots go up, and any other segment goes down.
What is left has no dot segments, so that following it again changes nothing. Which segments are dots is the
same before and after a path is encoded. A path that is rooted stays so, and what lies below a place stays
below it as long as no segment goes up from there.
-/

namespace LakeStore.Http.Url

open Text (pieces join pieces_eq_splitOn toList_join pieces_join join_pieces)
open Text.Percent (encode encodeChar)

/-- A segment that does not stand for itself. -/
def IsDots (segment : List Char) : Prop := segment = ['.'] ∨ segment = ['.', '.']

/-- Where a segment leads from a place. -/
def follow (place : List (List Char)) (segment : List Char) : List (List Char) :=
  if segment = ['.'] then place
  else if segment = ['.', '.'] then (if place = [] ∨ place = [[]] then place else place.dropLast)
  else place ++ [segment]

variable {segments place more : List (List Char)} {segment : List Char} {path p q : String}

theorem resolve_eq_foldl (segments : List (List Char)) : resolve segments = segments.foldl follow [] := rfl

theorem follow_of_not_isDots (h : ¬ IsDots segment) : follow place segment = place ++ [segment] := by
  rw [IsDots, not_or] at h
  rw [follow, if_neg h.1, if_neg h.2]

theorem mem_follow {s : List Char} (h : s ∈ follow place segment) : s ∈ place ∨ s = segment ∧ ¬ IsDots s := by
  rw [follow] at h
  split at h
  case isTrue => exact .inl h
  case isFalse hdot =>
    split at h
    case isTrue =>
      split at h
      case isTrue => exact .inl h
      case isFalse => exact .inl (List.dropLast_subset place h)
    case isFalse hdots =>
      refine (List.mem_append.mp h).imp_right fun hs => ?_
      obtain rfl := List.mem_singleton.mp hs
      exact ⟨rfl, not_or.mpr ⟨hdot, hdots⟩⟩

/-- Segments that stand for themselves all lead down. -/
theorem foldl_follow (h : ∀ s ∈ segments, ¬ IsDots s) : segments.foldl follow place = place ++ segments := by
  induction segments generalizing place with
  | nil => rw [List.foldl_nil, List.append_nil]
  | cons segment rest ih =>
    obtain ⟨hsegment, hrest⟩ := List.forall_mem_cons.mp h
    rw [List.foldl_cons, ih hrest, follow_of_not_isDots hsegment, List.append_assoc, List.singleton_append]

theorem mem_foldl_follow {s : List Char} (h : s ∈ segments.foldl follow place) :
    s ∈ place ∨ s ∈ segments ∧ ¬ IsDots s := by
  induction segments generalizing place with
  | nil => exact .inl h
  | cons segment rest ih =>
    rcases ih h with h | ⟨h, hs⟩
    · exact (mem_follow h).imp_right fun ⟨h, hs⟩ => ⟨h ▸ List.mem_cons_self, hs⟩
    · exact .inr ⟨List.mem_cons_of_mem _ h, hs⟩

theorem mem_resolve {s : List Char} (h : s ∈ resolve segments) : s ∈ segments ∧ ¬ IsDots s :=
  (mem_foldl_follow h).resolve_left List.not_mem_nil

theorem resolve_of_forall (h : ∀ s ∈ segments, ¬ IsDots s) : resolve segments = segments := foldl_follow h

@[simp] theorem resolve_resolve (segments : List (List Char)) :
    resolve (resolve segments) = resolve segments :=
  resolve_of_forall fun _ hs => (mem_resolve hs).2

/-- Segments can be spelled differently before or after they are followed, if it is the same ones that are
dots. -/
theorem resolve_map {f : List Char → List Char} (hnil : ∀ s, f s = [] ↔ s = [])
    (hdot : ∀ s, f s = ['.'] ↔ s = ['.']) (hdots : ∀ s, f s = ['.', '.'] ↔ s = ['.', '.'])
    (segments : List (List Char)) : resolve (segments.map f) = (resolve segments).map f := by
  have hfollow (place : List (List Char)) (s : List Char) :
      follow (place.map f) (f s) = (follow place s).map f := by
    have hroot : (place.map f = [] ∨ place.map f = [[]]) ↔ (place = [] ∨ place = [[]]) := by
      rw [List.map_eq_nil_iff, List.map_eq_singleton_iff]
      simp [hnil]
    rw [follow, follow]
    simp only [hdot, hdots, hroot]
    split
    · rfl
    · split
      · split
        · rfl
        · exact (List.map_dropLast ..).symm
      · rw [List.map_append]; rfl
  have hfoldl : ∀ segments place : List (List Char), (segments.map f).foldl follow (place.map f) =
      (segments.foldl follow place).map f := by
    intro segments
    induction segments with
    | nil => exact fun place => rfl
    | cons s rest ih =>
      intro place
      rw [List.map_cons, List.foldl_cons, hfollow, ih, List.foldl_cons]
  exact hfoldl segments []

/-! ### Texts -/

/-- A path none of whose segments is a dot or two dots. -/
def Undotted (path : String) : Prop := ∀ s ∈ pieces ['/'] path.toList, ¬ IsDots s

instance : DecidablePred IsDots := fun segment =>
  inferInstanceAs (Decidable (segment = ['.'] ∨ segment = ['.', '.']))

instance : DecidablePred Undotted := fun path =>
  inferInstanceAs (Decidable (∀ s ∈ pieces ['/'] path.toList, ¬ IsDots s))

theorem toList_withoutDots (path : String) :
    (withoutDots path).toList = ['/'].intercalate (resolve (pieces ['/'] path.toList)) := by
  rw [withoutDots, show "/" = String.singleton '/' from rfl, toList_join, List.map_map]
  exact congrArg _ ((List.map_congr_left fun cs _ => String.toList_ofList).trans (List.map_id _))

theorem withoutDots_of_undotted (h : Undotted path) : withoutDots path = path := by
  rw [withoutDots, resolve_of_forall h]
  exact (join_pieces '/' path.toList).trans String.ofList_toList

/-- The pieces of a path without dots, unless nothing is left of it. -/
theorem pieces_withoutDots (h : resolve (pieces ['/'] path.toList) ≠ []) :
    pieces ['/'] (withoutDots path).toList = resolve (pieces ['/'] path.toList) := by
  rw [pieces_eq_splitOn, toList_withoutDots, List.splitOn_intercalate _ _ h]
  exact fun s hs => Text.mark_notMem_pieces (mem_resolve hs).1

@[simp] theorem withoutDots_withoutDots (path : String) :
    withoutDots (withoutDots path) = withoutDots path := by
  by_cases h : resolve (pieces ['/'] path.toList) = []
  · have hempty : withoutDots path = "" := by rw [withoutDots, h]; rfl
    rw [hempty]; rfl
  · rw [← String.toList_inj, toList_withoutDots, pieces_withoutDots h, resolve_resolve, toList_withoutDots]

theorem follow_sublist (place : List (List Char)) (segment : List Char) :
    (follow place segment).Sublist (place ++ [segment]) := by
  rw [follow]
  split
  · exact List.sublist_append_left _ _
  · split
    · split
      · exact List.sublist_append_left _ _
      · exact (List.dropLast_sublist place).trans (List.sublist_append_left _ _)
    · exact List.Sublist.refl _

theorem foldl_follow_sublist (segments place : List (List Char)) :
    (segments.foldl follow place).Sublist (place ++ segments) := by
  induction segments generalizing place with
  | nil => rw [List.append_nil]; exact List.Sublist.refl _
  | cons segment rest ih =>
    rw [List.append_cons]
    exact (ih (follow place segment)).trans ((follow_sublist place segment).append_right rest)

/-- Nothing is put into a path when its dot segments are taken out. -/
theorem withoutDots_sublist (path : String) : (withoutDots path).toList.Sublist path.toList := by
  have hself : ['/'].intercalate (pieces ['/'] path.toList) = path.toList := by
    rw [pieces_eq_splitOn, List.intercalate_splitOn]
  have hsub := Text.intercalate_sublist ['/'] (foldl_follow_sublist (pieces ['/'] path.toList) [])
  rw [List.nil_append, hself, ← resolve_eq_foldl, ← toList_withoutDots] at hsub
  exact hsub

/-- Dot segments can be taken out before or after a path is encoded. -/
theorem withoutDots_encode {keep : Char → Bool} (hpercent : keep '%' = false) (hslash : keep '/' = true)
    (hdot : keep '.' = true) (path : String) :
    withoutDots (encode keep path) = encode keep (withoutDots path) := by
  have hmark : encodeChar keep '/' = ['/'] := if_pos hslash
  have hpoint : encodeChar keep '.' = ['.'] := if_pos hdot
  have hinj {s t : List Char} : s.flatMap (encodeChar keep) = t.flatMap (encodeChar keep) ↔ s = t :=
    (Text.Percent.flatMap_encodeChar_injective hpercent).eq_iff
  have hfixed {t : List Char} (ht : t.flatMap (encodeChar keep) = t) (s : List Char) :
      s.flatMap (encodeChar keep) = t ↔ s = t := by rw [← hinj (s := s) (t := t), ht]
  have hpieces := Text.pieces_flatMap hmark (fun c hc h => ?_) path.toList
  · have hresolve := resolve_map (f := (·.flatMap (encodeChar keep))) (hfixed rfl)
      (hfixed (by rw [List.flatMap_singleton, hpoint]))
      (hfixed (by rw [List.flatMap_cons, List.flatMap_singleton, hpoint]; rfl)) (pieces ['/'] path.toList)
    rw [← String.toList_inj, toList_withoutDots, Text.Percent.toList_encode, hpieces, hresolve,
      Text.Percent.toList_encode, toList_withoutDots, Text.flatMap_intercalate, List.flatMap_singleton, hmark]
  · rcases Text.Percent.mem_encodeChar h with ⟨-, h⟩ | h | h
    · exact hc h.symm
    · exact absurd h (by decide)
    · exact absurd h (by decide)

/-! ### Roots -/

/-- A path that may follow a host: nothing, or one that starts at the root. -/
def Rooted (path : String) : Prop := path = "" ∨ path.toList.head? = some '/'

theorem head?_foldl_follow : ∀ {segments place : List (List Char)}, place.head? = some [] →
    (segments.foldl follow place).head? = some []
  | [], place, h => h
  | segment :: rest, place, h => by
    rw [List.foldl_cons]
    refine head?_foldl_follow ?_
    rw [follow]
    split
    · exact h
    · split
      · split
        case isTrue => exact h
        case isFalse hroot =>
          obtain ⟨more, rfl⟩ := List.head?_eq_some_iff.mp h
          rw [not_or] at hroot
          obtain ⟨next, more, rfl⟩ := List.exists_cons_of_ne_nil fun hmore => hroot.2 (congrArg _ hmore)
          rfl
      · rw [List.head?_append, h]; rfl

theorem pieces_cons_slash (cs : List Char) : pieces ['/'] ('/' :: cs) = [] :: pieces ['/'] cs := by
  rw [pieces_eq_splitOn, List.splitOn_cons_eq_if_modifyHead, if_pos BEq.rfl, pieces_eq_splitOn]

/-- A path at the root stays there. -/
theorem Rooted.withoutDots (h : Rooted path) : Rooted (withoutDots path) := by
  rcases h with rfl | h
  · exact .inl rfl
  · obtain ⟨cs, hcs⟩ := List.head?_eq_some_iff.mp h
    have hhead : (resolve (pieces ['/'] path.toList)).head? = some [] := by
      rw [hcs, pieces_cons_slash]
      show ((pieces ['/'] cs).foldl follow [[]]).head? = some []
      exact head?_foldl_follow rfl
    obtain ⟨rest, hrest⟩ := List.head?_eq_some_iff.mp hhead
    have hlist := toList_withoutDots path
    rw [hrest] at hlist
    cases rest with
    | nil => exact .inl (String.toList_eq_nil_iff.mp hlist)
    | cons next rest => exact .inr (by rw [hlist, List.intercalate_cons_cons]; rfl)

theorem checkPath_of_rooted (h : Rooted path) (hasScheme : Bool) :
    checkPath hasScheme true path = .ok () := by
  rw [checkPath, if_pos rfl, if_pos]
  rcases h with rfl | h
  · rfl
  · rw [Bool.or_eq_true, decide_eq_true_iff, decide_eq_true_iff]; exact .inr h

theorem Rooted.encode {keep : Char → Bool} (h : Rooted path) (hslash : keep '/' = true) :
    Rooted (encode keep path) := by
  rcases h with rfl | h
  · exact .inl rfl
  · obtain ⟨cs, hcs⟩ := List.head?_eq_some_iff.mp h
    refine .inr ?_
    rw [Text.Percent.toList_encode, hcs, List.flatMap_cons, encodeChar, if_pos hslash]; rfl

/-! ### Places -/

/-- A path leads to a place or to what lies below it. -/
def Within (root path : String) : Prop := path = root ∨ ∃ rest, path = root ++ "/" ++ rest

/-- Segments that, followed from so far below a place, never lead above the place. -/
def Stays : Nat → List (List Char) → Prop
  | _, [] => True
  | depth, segment :: rest =>
    if segment = ['.'] then Stays depth rest
    else if segment = ['.', '.'] then 0 < depth ∧ Stays (depth - 1) rest
    else Stays (depth + 1) rest

instance decidableStays : ∀ depth segments, Decidable (Stays depth segments)
  | _, [] => .isTrue trivial
  | depth, segment :: rest =>
    have := decidableStays depth rest
    have := decidableStays (depth - 1) rest
    have := decidableStays (depth + 1) rest
    inferInstanceAs (Decidable (if segment = ['.'] then Stays depth rest
      else if segment = ['.', '.'] then 0 < depth ∧ Stays (depth - 1) rest else Stays (depth + 1) rest))

/-- Whoever never leads above a place ends up below it. -/
theorem Stays.foldl (hplace : place ≠ []) : ∀ {segments more : List (List Char)}, Stays more.length segments →
    ∃ below, segments.foldl follow (place ++ more) = place ++ below
  | [], more, _ => ⟨more, rfl⟩
  | segment :: rest, more, h => by
    rw [Stays] at h
    rw [List.foldl_cons, follow]
    split at h
    case isTrue hdot =>
      rw [if_pos hdot]
      exact Stays.foldl hplace h
    case isFalse hdot =>
      rw [if_neg hdot]
      split at h
      case isTrue hdots =>
        have hmore : more ≠ [] := List.length_pos_iff.mp h.1
        have hlength : 2 ≤ (place ++ more).length := by
          rw [List.length_append]
          exact Nat.add_le_add (List.length_pos_iff.mpr hplace) h.1
        rw [if_pos hdots, if_neg, List.dropLast_append_of_ne_nil hmore]
        · exact Stays.foldl hplace (by rw [List.length_dropLast]; exact h.2)
        · rintro (h | h) <;> rw [h] at hlength <;> exact absurd hlength (by decide)
      case isFalse hdots =>
        rw [if_neg hdots, List.append_assoc]
        exact Stays.foldl hplace (by rw [List.length_append]; exact h)

theorem pieces_dropWhile_subset (cs : List Char) :
    ∀ {s}, s ∈ pieces ['/'] (cs.dropWhile fun c => decide (c = '/')) → s ∈ pieces ['/'] cs := by
  induction cs with
  | nil => exact fun h => h
  | cons c cs ih =>
    intro s h
    by_cases hc : c = '/'
    · subst hc
      rw [List.dropWhile_cons_of_pos (by decide)] at h
      rw [pieces_cons_slash]
      exact .tail _ (ih h)
    · rwa [List.dropWhile_cons_of_neg (by simpa using hc)] at h

theorem pieces_append_slash (cs ds : List Char) :
    pieces ['/'] (cs ++ '/' :: ds) = pieces ['/'] cs ++ pieces ['/'] ds := by
  rw [pieces_eq_splitOn, pieces_eq_splitOn, pieces_eq_splitOn, List.splitOn_append_cons_self]

theorem pieces_glue (p q : String) :
    pieces ['/'] (p ++ "/" ++ q).toList = pieces ['/'] p.toList ++ pieces ['/'] q.toList := by
  rw [String.toList_append, String.toList_append, List.append_assoc]
  exact pieces_append_slash _ _

/-- What is added to a path and never leads above it ends up within it. -/
theorem within_of_stays {root : String} (hroot : Undotted root) {rest : String}
    (h : Stays 0 (pieces ['/'] rest.toList)) : Within root (withoutDots (root ++ "/" ++ rest)) := by
  have hne : pieces ['/'] root.toList ≠ [] :=
    pieces_eq_splitOn '/' root.toList ▸ List.splitOn_ne_nil '/' root.toList
  obtain ⟨below, hbelow⟩ := Stays.foldl hne (show Stays ([] : List (List Char)).length _ from h)
  have hlist := toList_withoutDots (root ++ "/" ++ rest)
  rw [pieces_glue, resolve_eq_foldl, List.foldl_append, foldl_follow hroot, List.nil_append,
    ← List.append_nil (pieces ['/'] root.toList), hbelow] at hlist
  have hself : ['/'].intercalate (pieces ['/'] root.toList) = root.toList := by
    rw [pieces_eq_splitOn, List.intercalate_splitOn]
  by_cases hnil : below = []
  · rw [hnil, List.append_nil, hself] at hlist
    exact .inl (String.toList_inj.mp hlist)
  · rw [Text.intercalate_append hne hnil, hself] at hlist
    refine .inr ⟨String.ofList (['/'].intercalate below), String.toList_inj.mp (hlist.trans ?_)⟩
    simp only [String.toList_append, String.toList_ofList]; rfl

end LakeStore.Http.Url
