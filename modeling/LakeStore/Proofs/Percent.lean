import LakeStore.Text.Percent

/-!
What is encoded is what is decoded.

A percent sign never stands for itself, so every text can be told from its encoding, and what is encoded
once stays as it is when more characters may stand for themselves. In a form the marks between and within
pairs are always encoded, so that pairs come back one by one.
-/

namespace LakeStore.Utf8

theorem encode_eq (s : String) : encode s = s.toByteArray.data.toList := by
  rw [← String.utf8Encode_toList, List.utf8Encode, List.toList_data_toByteArray]; rfl

theorem encode_injective {s t : String} (h : encode s = encode t) : s = t := by
  rw [encode_eq, encode_eq, Array.toList_inj, ← ByteArray.ext_iff] at h
  exact String.toByteArray_inj.mp h

theorem encode_append (s t : String) : encode (s ++ t) = encode s ++ encode t := by
  rw [encode, String.toList_append, List.flatMap_append]; rfl

end LakeStore.Utf8

namespace LakeStore.Text

/-! ### Pieces -/

variable {mark : Char} {cs xs ys : List Char} {parts : List (List Char)}

theorem pieces_eq_splitOn (mark : Char) (cs : List Char) : pieces [mark] cs = cs.splitOn mark := by
  have h (piece : List Char) :
      pieces.go [mark] 0 piece cs = (cs.splitOn mark).modifyHead (piece.reverse ++ ·) := by
    induction cs generalizing piece with
    | nil => rw [pieces.go, List.splitOn_nil, List.modifyHead_cons, List.append_nil]
    | cons c cs ih =>
      rw [List.splitOn_cons_eq_if_modifyHead, pieces.go]
      by_cases hc : mark = c
      · subst hc
        rw [if_pos (by simp), if_pos BEq.rfl, List.modifyHead_cons, List.append_nil, List.length_singleton,
          Nat.sub_self, ih, List.reverse_nil]
        exact congrArg _ (congrFun List.modifyHead_id _)
      · rw [if_neg (by simpa using hc), ih, if_neg (by simpa using Ne.symm hc), List.modifyHead_modifyHead]
        refine congrArg (fun f => List.modifyHead f _) (funext fun xs => ?_)
        rw [List.reverse_cons, List.append_assoc, Function.comp_apply, List.singleton_append]
  rw [pieces, h, List.reverse_nil]
  exact congrFun List.modifyHead_id _

theorem map_intersperse {α β : Type} (f : α → β) (a : α) : ∀ xs : List α,
    (xs.intersperse a).map f = (xs.map f).intersperse (f a)
  | [] | [_] => rfl
  | x :: y :: xs => by
    have ih := map_intersperse f a (y :: xs)
    rw [List.intersperse_cons_cons, List.map_cons, List.map_cons, ih, List.map_cons, List.map_cons,
      List.map_cons, List.intersperse_cons_cons]

theorem mem_intercalate {α : Type} {sep : List α} {a : α} : ∀ {parts : List (List α)},
    a ∈ sep.intercalate parts → a ∈ sep ∨ ∃ part ∈ parts, a ∈ part
  | [], h => by rw [List.intercalate_nil] at h; exact absurd h List.not_mem_nil
  | [part], h => .inr ⟨part, List.mem_singleton_self part, by rwa [List.intercalate_singleton] at h⟩
  | part :: next :: rest, h => by
    rw [List.intercalate_cons_cons, List.mem_append, List.mem_append] at h
    rcases h with (h | h) | h
    · exact .inr ⟨part, List.mem_cons_self, h⟩
    · exact .inl h
    · exact (mem_intercalate h).imp_right fun ⟨p, hp, ha⟩ => ⟨p, List.mem_cons_of_mem _ hp, ha⟩

theorem intercalate_append {α : Type} {sep : List α} : ∀ {xs ys : List (List α)}, xs ≠ [] → ys ≠ [] →
    sep.intercalate (xs ++ ys) = sep.intercalate xs ++ sep ++ sep.intercalate ys
  | [], _, h, _ => absurd rfl h
  | [x], y :: ys, _, _ => by
      rw [List.singleton_append, List.intercalate_cons_cons, List.intercalate_singleton]
  | x :: x' :: xs, ys, _, hys => by
    have ih : sep.intercalate (x' :: xs ++ ys) = _ := intercalate_append (List.cons_ne_nil x' xs) hys
    rw [List.cons_append, List.cons_append, List.intercalate_cons_cons, ← List.cons_append, ih,
      List.intercalate_cons_cons]
    simp only [List.append_assoc]

theorem intercalate_sublist {α : Type} (sep : List α) {xs ys : List (List α)} (h : xs.Sublist ys) :
    (sep.intercalate xs).Sublist (sep.intercalate ys) := by
  induction h with
  | slnil => exact List.Sublist.refl _
  | @cons xs ys y hsub ih =>
    cases ys with
    | nil =>
      obtain rfl := List.sublist_nil.mp hsub
      exact List.nil_sublist _
    | cons y' ys =>
      rw [List.intercalate_cons_cons]
      exact ih.trans (List.sublist_append_right _ _)
  | @cons_cons xs ys x hsub ih =>
    cases ys with
    | nil =>
      obtain rfl := List.sublist_nil.mp hsub
      exact List.Sublist.refl _
    | cons y ys =>
      rw [List.intercalate_cons_cons]
      cases xs with
      | nil =>
        rw [List.intercalate_singleton, List.append_assoc]
        exact List.sublist_append_left _ _
      | cons x' xs =>
        rw [List.intercalate_cons_cons]
        exact ih.append_left _

theorem flatMap_intercalate {α β : Type} (f : α → List β) (sep : List α) : ∀ parts : List (List α),
    (sep.intercalate parts).flatMap f = (sep.flatMap f).intercalate (parts.map (·.flatMap f))
  | [] => rfl
  | [part] => by rw [List.intercalate_singleton, List.map_singleton, List.intercalate_singleton]
  | part :: next :: rest => by
    rw [List.intercalate_cons_cons, List.flatMap_append, List.flatMap_append,
      flatMap_intercalate f sep (next :: rest)]
    simp only [List.map_cons, List.intercalate_cons_cons]

theorem toList_join (mark : Char) (texts : List String) :
    (join (String.singleton mark) texts).toList = [mark].intercalate (texts.map String.toList) := by
  rw [join, String.toList_join, List.flatMap, map_intersperse, List.intercalate, String.toList_singleton]

/-- Pieces without a mark come back from between the marks. -/
theorem pieces_join {texts : List String} (h : ∀ s ∈ texts, mark ∉ s.toList) (hne : texts ≠ []) :
    pieces [mark] (join (String.singleton mark) texts).toList = texts.map String.toList := by
  rw [pieces_eq_splitOn, toList_join, List.splitOn_intercalate]
  · simpa using h
  · simpa using hne

theorem join_pieces (mark : Char) (cs : List Char) :
    join (String.singleton mark) ((pieces [mark] cs).map String.ofList) = String.ofList cs := by
  rw [← String.toList_inj, toList_join, pieces_eq_splitOn, List.map_map, String.toList_ofList]
  simp [Function.comp_def]

theorem mark_notMem_pieces {piece : List Char} (h : piece ∈ pieces [mark] cs) : mark ∉ piece := by
  rw [pieces_eq_splitOn] at h
  induction cs generalizing piece with
  | nil =>
    rw [List.splitOn_nil, List.mem_singleton] at h
    rw [h]; exact List.not_mem_nil
  | cons c cs ih =>
    rw [List.splitOn_cons_eq_if_modifyHead] at h
    split at h
    case isTrue =>
      rcases List.mem_cons.mp h with rfl | h
      · exact List.not_mem_nil
      · exact ih h
    case isFalse hc =>
      obtain ⟨first, rest, hsplit⟩ := List.exists_cons_of_ne_nil (List.splitOn_ne_nil mark cs)
      rw [hsplit, List.modifyHead_cons] at h
      rw [hsplit] at ih
      rcases List.mem_cons.mp h with rfl | h
      · rw [List.mem_cons, not_or]
        exact ⟨fun heq => hc (beq_iff_eq.mpr heq.symm), ih List.mem_cons_self⟩
      · exact ih (List.mem_cons_of_mem _ h)

theorem splitOn_append_of_notMem (h : mark ∉ xs) (ys : List Char) :
    (xs ++ ys).splitOn mark = (ys.splitOn mark).modifyHead (xs ++ ·) := by
  induction xs with
  | nil => exact (congrFun List.modifyHead_id _).symm
  | cons x xs ih =>
    rw [List.mem_cons, not_or] at h
    rw [List.cons_append, List.splitOn_cons_eq_if_modifyHead, if_neg (by simpa using Ne.symm h.1), ih h.2,
      List.modifyHead_modifyHead]
    rfl

/-- Characters can be spelled out before or after a text is cut into pieces, as long as the mark is spelled
by itself alone. -/
theorem pieces_flatMap {f : Char → List Char} (hmark : f mark = [mark]) (hf : ∀ c, c ≠ mark → mark ∉ f c)
    (cs : List Char) : pieces [mark] (cs.flatMap f) = (pieces [mark] cs).map (·.flatMap f) := by
  rw [pieces_eq_splitOn, pieces_eq_splitOn]
  induction cs with
  | nil => rw [List.flatMap_nil, List.splitOn_nil]; rfl
  | cons c cs ih =>
    rw [List.flatMap_cons, List.splitOn_cons_eq_if_modifyHead]
    by_cases hc : c = mark
    · subst hc
      rw [hmark, if_pos BEq.rfl, List.singleton_append, List.splitOn_cons_eq_if_modifyHead,
        if_pos BEq.rfl, ih]
      rfl
    · rw [splitOn_append_of_notMem (hf c hc), ih, if_neg (by simpa using hc)]
      cases cs.splitOn mark <;> rfl

theorem cutAt_append (h : mark ∉ xs) : cutAt mark (xs ++ mark :: ys) = (xs, some ys) := by
  induction xs with
  | nil => rw [List.nil_append, cutAt, if_pos rfl]
  | cons x xs ih =>
    rw [List.mem_cons, not_or] at h
    rw [List.cons_append, cutAt, if_neg (Ne.symm h.1), ih h.2]

theorem cutAt_of_notMem (h : mark ∉ xs) : cutAt mark xs = (xs, none) := by
  induction xs with
  | nil => rfl
  | cons x xs ih =>
    rw [List.mem_cons, not_or] at h
    rw [cutAt, if_neg (Ne.symm h.1), ih h.2]

theorem mem_of_mem_cutAt_fst {c : Char} : ∀ {cs : List Char}, c ∈ (cutAt mark cs).1 → c ∈ cs
  | d :: cs, h => by
    rw [cutAt] at h
    split at h
    · exact absurd h List.not_mem_nil
    · exact (List.mem_cons.mp h).elim (fun h => h ▸ List.mem_cons_self) fun h =>
        .tail d (mem_of_mem_cutAt_fst h)

theorem mem_of_mem_cutAt_snd {c : Char} : ∀ {cs : List Char}, c ∈ (cutAt mark cs).2.getD [] → c ∈ cs
  | [], h => h
  | d :: cs, h => by
    rw [cutAt] at h
    split at h
    · exact .tail d h
    · exact .tail d (mem_of_mem_cutAt_snd h)

/-! ### Octets -/

namespace Percent

variable {keep more : Char → Bool} {c d : Char} {s : String}

theorem value?_digit {n : Nat} (h : n < 16) : Hex.value? (digit n) = some n :=
  (by decide : ∀ n : Fin 16, Hex.value? (digit n) = some n.1) ⟨n, h⟩

theorem isAlphanum_digit {n : Nat} (h : n < 16) : (digit n).isAlphanum = true :=
  (by decide : ∀ n : Fin 16, (digit n).isAlphanum = true) ⟨n, h⟩

theorem decode_octet (b : UInt8) (cs : List Char) : decode (octet b ++ cs) = b :: decode cs := by
  have hb := b.toNat_lt
  rw [octet, List.cons_append, List.cons_append, List.singleton_append, decode,
    value?_digit (by omega), value?_digit (by omega)]
  refine congrArg (· :: decode cs) ?_
  rw [Nat.div_add_mod' b.toNat 16, UInt8.ofNat_toNat]

theorem decode_octets (bytes : Bytes) (cs : List Char) :
    decode (bytes.flatMap octet ++ cs) = bytes ++ decode cs := by
  induction bytes with
  | nil => rfl
  | cons b bytes ih => rw [List.flatMap_cons, List.append_assoc, decode_octet, ih, List.cons_append]

theorem decode_cons (hc : c ≠ '%') (cs : List Char) :
    decode (c :: cs) = String.utf8EncodeChar c ++ decode cs := by
  rw [decode.eq_def]
  split
  · rename_i h; exact absurd (List.cons.inj h).1 hc
  · rename_i h
    obtain ⟨rfl, rfl⟩ := List.cons.inj h
    rfl
  · rename_i h; cases h

theorem decode_encodeChar (hkeep : keep '%' = false) (c : Char) (cs : List Char) :
    decode (encodeChar keep c ++ cs) = String.utf8EncodeChar c ++ decode cs := by
  rw [encodeChar]
  split
  case isTrue hc =>
    refine decode_cons ?_ cs
    rintro rfl
    rw [hkeep] at hc; cases hc
  case isFalse => exact decode_octets _ cs

theorem decode_flatMap_encodeChar (hkeep : keep '%' = false) :
    ∀ cs : List Char, decode (cs.flatMap (encodeChar keep)) = cs.flatMap String.utf8EncodeChar
  | [] => by rw [List.flatMap_nil, decode]; rfl
  | c :: cs => by
    rw [List.flatMap_cons, decode_encodeChar hkeep, decode_flatMap_encodeChar hkeep cs, List.flatMap_cons]

theorem flatMap_encodeChar_injective (hkeep : keep '%' = false) :
    Function.Injective fun cs : List Char => cs.flatMap (encodeChar keep) := by
  intro cs ds h
  have hdecode : cs.flatMap String.utf8EncodeChar = ds.flatMap String.utf8EncodeChar := by
    rw [← decode_flatMap_encodeChar hkeep, ← decode_flatMap_encodeChar hkeep]
    exact congrArg decode h
  have hencode : Utf8.encode (String.ofList cs) = Utf8.encode (String.ofList ds) := by
    rw [Utf8.encode, Utf8.encode, String.toList_ofList, String.toList_ofList, hdecode]
  exact String.ofList_injective (Utf8.encode_injective hencode)

/-- A text comes back from its encoding, as long as a percent sign does not stand for itself. -/
theorem decode_encode (hkeep : keep '%' = false) (s : String) :
    decode (encode keep s).toList = Utf8.encode s := by
  rw [encode, String.toList_ofList, decode_flatMap_encodeChar hkeep, Utf8.encode]

theorem toList_encode (keep : Char → Bool) (s : String) :
    (encode keep s).toList = s.toList.flatMap (encodeChar keep) := String.toList_ofList

theorem encode_append (keep : Char → Bool) (s t : String) :
    encode keep (s ++ t) = encode keep s ++ encode keep t := by
  rw [← String.toList_inj, toList_encode, String.toList_append, List.flatMap_append, String.toList_append,
    toList_encode, toList_encode]

/-- The characters of an encoding. -/
theorem mem_encodeChar (h : d ∈ encodeChar keep c) :
    keep d = true ∧ d = c ∨ d = '%' ∨ d.isAlphanum = true := by
  rw [encodeChar] at h
  split at h
  case isTrue hc => exact .inl ⟨List.mem_singleton.mp h ▸ hc, List.mem_singleton.mp h⟩
  case isFalse hc =>
    obtain ⟨b, -, hd⟩ := List.mem_flatMap.mp h
    have hb := b.toNat_lt
    simp only [octet, List.mem_cons, List.not_mem_nil, or_false] at hd
    rcases hd with rfl | rfl | rfl
    · exact .inr (.inl rfl)
    · exact .inr (.inr (isAlphanum_digit (by omega)))
    · exact .inr (.inr (isAlphanum_digit (by omega)))

theorem encodeChar_ne_nil (keep : Char → Bool) (c : Char) : encodeChar keep c ≠ [] := by
  rw [encodeChar]
  split
  · exact List.cons_ne_nil _ _
  · intro h
    have hpos : 0 < (String.utf8EncodeChar c).length := by
      rw [String.length_utf8EncodeChar]; exact c.utf8Size_pos
    obtain ⟨b, bytes, hb⟩ := List.exists_cons_of_length_pos hpos
    rw [hb, List.flatMap_cons] at h
    exact List.cons_ne_nil _ _ h

theorem isUnreserved_of_isAlphanum (h : c.isAlphanum = true) : isUnreserved c = true := by
  rw [isUnreserved, h]; rfl

theorem keepsInPath_of_isUnreserved (h : isUnreserved c = true) : keepsInPath c = true := by
  rw [keepsInPath, h]; rfl

theorem mem_encode (hkeep : ∀ c, isUnreserved c = true → keep c = true) (h : d ∈ (encode keep s).toList) :
    keep d = true ∨ d = '%' := by
  rw [toList_encode] at h
  obtain ⟨c, -, hd⟩ := List.mem_flatMap.mp h
  rcases mem_encodeChar hd with ⟨hk, -⟩ | hd | hd
  · exact .inl hk
  · exact .inr hd
  · exact .inl (hkeep d (isUnreserved_of_isAlphanum hd))

theorem encode_of_forall (h : ∀ c ∈ s.toList, keep c = true) : encode keep s = s := by
  rw [← String.toList_inj, toList_encode]
  generalize s.toList = cs at h
  induction cs with
  | nil => rfl
  | cons c cs ih =>
    obtain ⟨hc, hcs⟩ := List.forall_mem_cons.mp h
    rw [List.flatMap_cons, ih hcs, encodeChar, if_pos hc]; rfl

theorem encode_of_all (h : s.toList.all keep = true) : encode keep s = s :=
  encode_of_forall (List.all_eq_true.mp h)

theorem toNat_of_isAlphanum (h : c.isAlphanum = true) : c.toNat < 128 := by
  have hcases : ((c.isUpper || c.isLower) || c.isDigit) = true := h
  rw [Bool.or_eq_true, Bool.or_eq_true] at hcases
  rcases hcases with (hupper | hlower) | hdigit
  · have hlast : c.val ≤ 'Z'.val := (of_decide_eq_true hupper).2
    exact Nat.lt_of_le_of_lt hlast (by decide)
  · have hlast : c.val ≤ 'z'.val := of_decide_eq_true (Bool.and_eq_true_iff.mp hlower).2
    exact Nat.lt_of_le_of_lt hlast (by decide)
  · have hlast : c.val ≤ '9'.val := of_decide_eq_true (Bool.and_eq_true_iff.mp hdigit).2
    exact Nat.lt_of_le_of_lt hlast (by decide)

theorem toNat_of_isUnreserved (h : isUnreserved c = true) : c.toNat < 128 := by
  simp only [isUnreserved, Bool.or_eq_true, decide_eq_true_iff] at h
  rcases h with (((h | rfl) | rfl) | rfl) | rfl
  · exact toNat_of_isAlphanum h
  all_goals decide

/-- What holds of the ASCII characters can be found out one by one. -/
theorem of_ascii {P : Char → Prop} (hc : c.toNat < 128) (h : ∀ n : Fin 128, P (Char.ofNat n)) : P c := by
  have hat := h ⟨c.toNat, hc⟩
  rwa [Char.ofNat_toNat] at hat

theorem of_isUnreserved {P : Char → Prop} (hc : isUnreserved c = true)
    (h : ∀ n : Fin 128, isUnreserved (Char.ofNat n) = true → P (Char.ofNat n)) : P c :=
  of_ascii (P := fun c => isUnreserved c = true → P c) (toNat_of_isUnreserved hc) h hc

end Percent

/-! ### Forms -/

namespace Form

open Percent

variable {s : String} {d : Char}

theorem toList_encodeText (s : String) :
    (encodeText s).toList = s.toList.flatMap fun c => if c = ' ' then ['+'] else encodeChar isUnreserved c :=
  String.toList_ofList

theorem mem_encodeText (h : d ∈ (encodeText s).toList) : isUnreserved d = true ∨ d = '%' ∨ d = '+' := by
  rw [toList_encodeText] at h
  obtain ⟨c, -, hd⟩ := List.mem_flatMap.mp h
  split at hd
  case isTrue => exact .inr (.inr (List.mem_singleton.mp hd))
  case isFalse =>
    rcases mem_encodeChar hd with ⟨hk, -⟩ | hd | hd
    · exact .inl hk
    · exact .inr (.inl hd)
    · exact .inl (isUnreserved_of_isAlphanum hd)

theorem notMem_encodeText {mark : Char} (hmark : isUnreserved mark = false) (hne : mark ≠ '%' ∧ mark ≠ '+') :
    mark ∉ (encodeText s).toList := fun h => by
  rcases mem_encodeText h with h | h | h
  · rw [hmark] at h; cases h
  · exact hne.1 h
  · exact hne.2 h

theorem plus_notMem_encodeChar (c : Char) : '+' ∉ encodeChar isUnreserved c := fun h => by
  rcases mem_encodeChar h with ⟨h, -⟩ | h | h <;> exact absurd h (by decide)

/-- A plus sign stands for a space and for nothing else. -/
theorem map_encodeText (s : String) :
    ((encodeText s).toList.map fun c => if c = '+' then ' ' else c) =
      s.toList.flatMap (encodeChar fun c => isUnreserved c || c = ' ') := by
  rw [toList_encodeText, List.map_flatMap]
  refine congrArg s.toList.flatMap (funext fun c => ?_)
  by_cases hc : c = ' '
  · subst hc; rfl
  · rw [if_neg hc, encodeChar, encodeChar, decide_eq_false hc, Bool.or_false]
    refine (List.map_congr_left fun d hd => if_neg ?_).trans (List.map_id _)
    rintro rfl
    exact plus_notMem_encodeChar c hd

theorem decodeText_encodeText (s : String) : decodeText (encodeText s).toList = Utf8.encode s := by
  rw [decodeText, map_encodeText]
  exact decode_flatMap_encodeChar (by decide) s.toList

/-- A pair as octets. -/
def octets (p : String × String) : Bytes × Bytes := (Utf8.encode p.1, Utf8.encode p.2)

theorem octets_injective : Function.Injective octets := by
  rintro ⟨n, v⟩ ⟨n', v'⟩ h
  obtain ⟨hn, hv⟩ := Prod.mk.inj h
  exact Prod.ext (Utf8.encode_injective hn) (Utf8.encode_injective hv)

theorem toList_encodePair (p : String × String) :
    (encodePair p).toList = (encodeText p.1).toList ++ '=' :: (encodeText p.2).toList := by
  rw [encodePair, String.toList_append, String.toList_append, List.append_assoc]; rfl

theorem decodePair_encodePair (p : String × String) : decodePair (encodePair p).toList = octets p := by
  rw [decodePair, toList_encodePair, cutAt_append (notMem_encodeText (by decide) (by decide)),
    decodeText_encodeText, Option.getD_some, decodeText_encodeText, octets]

theorem notMem_encodePair (p : String × String) : '&' ∉ (encodePair p).toList := by
  rw [toList_encodePair, List.mem_append, List.mem_cons, not_or, not_or]
  exact ⟨notMem_encodeText (by decide) (by decide), by decide, notMem_encodeText (by decide) (by decide)⟩

/-- Pairs come back from a form, in order and with nothing between them. -/
theorem decode_encode (pairs : List (String × String)) : decode (encode pairs) = pairs.map octets := by
  by_cases hpairs : pairs = []
  · subst hpairs; rfl
  have hpieces : pieces ['&'] (encode pairs).toList = (pairs.map encodePair).map String.toList :=
    pieces_join (List.forall_mem_map.mpr fun p _ => notMem_encodePair p) (by simpa using hpairs)
  have hne : encode pairs ≠ "" := by
    intro hempty
    have hnil : [] ∈ (pairs.map encodePair).map String.toList := by rw [← hpieces, hempty]; decide
    rw [List.map_map] at hnil
    obtain ⟨p, -, hp⟩ := List.mem_map.mp hnil
    rw [Function.comp_apply, toList_encodePair] at hp
    exact List.append_ne_nil_of_right_ne_nil _ (List.cons_ne_nil _ _) hp
  rw [decode, if_neg hne, hpieces, List.map_map, List.map_map]
  exact List.map_congr_left fun p _ => decodePair_encodePair p

/-- The characters of a form. -/
theorem mem_encode {pairs : List (String × String)} (h : d ∈ (encode pairs).toList) :
    isUnreserved d = true ∨ d ∈ ['%', '+', '=', '&'] := by
  rw [encode, show "&" = String.singleton '&' from rfl, toList_join, List.map_map] at h
  rcases mem_intercalate h with h | ⟨cs, hcs, hd⟩
  · exact .inr (by rw [List.mem_singleton.mp h]; decide)
  · obtain ⟨p, -, rfl⟩ := List.mem_map.mp hcs
    rw [Function.comp_apply, toList_encodePair, List.mem_append, List.mem_cons] at hd
    rcases hd with hd | rfl | hd
    · exact (mem_encodeText hd).imp_right (by rintro (rfl | rfl) <;> decide)
    · exact .inr (by decide)
    · exact (mem_encodeText hd).imp_right (by rintro (rfl | rfl) <;> decide)

end Form

end LakeStore.Text
