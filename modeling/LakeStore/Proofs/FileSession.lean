import Mathlib.Data.List.DropRight
import LakeStore.Proofs.Delivery

/-!
What the file session of a token says.

A session spells sixteen octets: those that the UTF-8 of the token starts with, and zeros behind a shorter
one. Its digits come in pairs and its hyphens stand at fixed places, so the octets can be read back, and two
tokens share a session exactly if they agree in them. A longer token may be cut within a character, and
zeros at the end of a token are lost; among tokens of neither kind no two share a session. To open an object
for a token is to name its session in the one request that is made.
-/

namespace LakeStore

namespace Hex

variable {bytes : Bytes} {c : Char} {n : Nat}

theorem value?_digit (h : n < 16) : value? (digit n) = some n :=
  (by decide : ∀ n : Fin 16, value? (digit n) = some n.1) ⟨n, h⟩

theorem digit_mem (h : n < 16) : digit n ∈ "0123456789abcdef".toList :=
  (by decide : ∀ n : Fin 16, digit n ∈ "0123456789abcdef".toList) ⟨n, h⟩

theorem encode_cons (b : UInt8) (bytes : Bytes) :
    encode (b :: bytes) = digit (b.toNat / 16) :: digit (b.toNat % 16) :: encode bytes := rfl

theorem length_encode (bytes : Bytes) : (encode bytes).length = 2 * bytes.length := by
  induction bytes with
  | nil => rfl
  | cons b bytes ih => rw [encode_cons, List.length_cons, List.length_cons, ih, List.length_cons]; omega

/-- Every octet can be read back from its two digits. -/
theorem decode_encode (bytes : Bytes) : decode (encode bytes) = some bytes := by
  induction bytes with
  | nil => rfl
  | cons b bytes ih =>
    have hb := b.toNat_lt
    rw [encode_cons, decode, value?_digit (by omega), value?_digit (by omega), ih]
    refine congrArg (fun a => some (a :: bytes)) ?_
    rw [Nat.div_add_mod' b.toNat 16, UInt8.ofNat_toNat]

theorem mem_of_mem_encode (h : c ∈ encode bytes) : c ∈ "0123456789abcdef".toList := by
  obtain ⟨b, -, hc⟩ := List.mem_flatMap.mp h
  have hb := b.toNat_lt
  rcases List.mem_pair.mp hc with rfl | rfl
  · exact digit_mem (by omega)
  · exact digit_mem (by omega)

theorem hyphen_notMem_encode (bytes : Bytes) : '-' ∉ encode bytes := fun h =>
  absurd (mem_of_mem_encode h) (by decide)

end Hex

namespace Identifier

/-! ### Groups and hyphens -/

section Grouped

variable {mark : Char} {xs ys digits : List Char} {i : Nat}

/-- A mark stands first behind what has none, and then where it stands in the rest. -/
theorem getElem?_eq_mark_iff (h : mark ∉ xs) : (xs ++ mark :: ys)[i]? = some mark ↔
    i = xs.length ∨ xs.length < i ∧ ys[i - (xs.length + 1)]? = some mark := by
  rcases Nat.lt_trichotomy i xs.length with hlt | rfl | hgt
  · rw [List.getElem?_append_left hlt]
    constructor
    · intro hmark
      exact absurd (List.mem_of_getElem? hmark) h
    · rintro (heq | ⟨hgt, -⟩)
      · exact absurd heq hlt.ne
      · exact absurd hgt hlt.asymm
  · simp
  · obtain ⟨j, rfl⟩ := Nat.exists_eq_add_of_lt hgt
    rw [List.getElem?_append_right (by omega), show xs.length + j + 1 - xs.length = j + 1 by omega,
      List.getElem?_cons_succ, show xs.length + j + 1 - (xs.length + 1) = j by omega]
    exact ⟨fun hmark => .inr ⟨hgt, hmark⟩, fun hmark => (hmark.resolve_left hgt.ne').2⟩

theorem toList_grouped (digits : List Char) : (grouped digits).toList =
    digits.take 8 ++ '-' :: ((digits.drop 8).take 4 ++ '-' :: ((digits.drop 12).take 4
      ++ '-' :: ((digits.drop 16).take 4 ++ '-' :: digits.drop 20))) := by
  simp only [grouped, String.toList_ofList, List.append_assoc, List.cons_append]

theorem length_grouped (h : digits.length = 32) : (grouped digits).length = 36 := by
  rw [← String.length_toList, toList_grouped]
  simp [h]

theorem group_subset (digits : List Char) (m n : Nat) : (digits.drop m).take n ⊆ digits := fun _ hc =>
  List.mem_of_mem_drop (List.mem_of_mem_take hc)

/-- The hyphens of an identifier stand at four places. -/
theorem hyphen_iff (hlength : digits.length = 32) (h : '-' ∉ digits) :
    (grouped digits).toList[i]? = some '-' ↔ i ∈ [8, 13, 18, 23] := by
  have hgroup (m n : Nat) : '-' ∉ (digits.drop m).take n := fun hc => h (group_subset digits m n hc)
  have hlast (j : Nat) : (digits.drop 20)[j]? ≠ some '-' := fun hc =>
    h (List.mem_of_mem_drop (List.mem_of_getElem? hc))
  have hfirst : '-' ∉ digits.take 8 := hgroup 0 8
  rw [toList_grouped, getElem?_eq_mark_iff hfirst, getElem?_eq_mark_iff (hgroup 8 4),
    getElem?_eq_mark_iff (hgroup 12 4), getElem?_eq_mark_iff (hgroup 16 4)]
  simp only [List.length_take, List.length_drop, hlength, hlast, and_false, or_false, List.mem_cons,
    List.not_mem_nil]
  omega

/-- Without its hyphens an identifier is its digits. -/
theorem filter_grouped (h : '-' ∉ digits) : (grouped digits).toList.filter (· ≠ '-') = digits := by
  have hkeep {cs : List Char} (hcs : cs ⊆ digits) : cs.filter (· ≠ '-') = cs :=
    List.filter_eq_self.mpr fun c hc => decide_eq_true fun heq => h (heq ▸ hcs hc)
  have hrest (m : Nat) : (digits.drop m).take 4 ++ digits.drop (m + 4) = digits.drop m := by
    rw [← List.drop_drop, List.take_append_drop]
  rw [toList_grouped]
  simp only [List.filter_append, List.filter_cons_of_neg, ne_eq, not_true_eq_false, decide_false,
    Bool.false_eq_true, not_false_eq_true]
  rw [hkeep (List.take_subset 8 digits), hkeep (group_subset digits 8 4), hkeep (group_subset digits 12 4),
    hkeep (group_subset digits 16 4), hkeep (List.drop_subset 20 digits), hrest 16, hrest 12, hrest 8,
    List.take_append_drop]

theorem mem_of_mem_grouped {c : Char} (h : c ∈ (grouped digits).toList) (hc : c ≠ '-')
    (hfree : '-' ∉ digits) : c ∈ digits := by
  rw [← filter_grouped hfree]
  exact List.mem_filter.mpr ⟨h, decide_eq_true hc⟩

end Grouped

/-! ### Sessions -/

section Session

variable {t t' : String}

theorem sessionOctets_eq (token : String) :
    sessionOctets token = (token.toUTF8.data.toList.take 16).rightpad 16 0 := by
  rw [sessionOctets, Utf8.encode_eq]; rfl

theorem length_sessionOctets (token : String) : (sessionOctets token).length = 16 := by
  rw [sessionOctets_eq, List.length_rightpad, List.length_take]
  omega

theorem length_sessionDigits (token : String) : (Hex.encode (sessionOctets token)).length = 32 := by
  rw [Hex.length_encode, length_sessionOctets]

/-- The octets of a token can be read back from its session. -/
theorem decode_session (token : String) :
    Hex.decode ((session token).toList.filter (· ≠ '-')) = some (sessionOctets token) := by
  rw [session, filter_grouped (Hex.hyphen_notMem_encode _), Hex.decode_encode]

theorem session_eq_iff : session t = session t' ↔ sessionOctets t = sessionOctets t' := by
  constructor
  · intro h
    have hdecode := decode_session t
    rw [h, decode_session t'] at hdecode
    exact (Option.some.inj hdecode).symm
  · intro h
    rw [session, session, h]

/-- What a session says of its token: the octets that its UTF-8 starts with, and zeros behind a shorter one,
in an identifier of four hyphens and lowercase digits. That start may end within a character. -/
theorem session_spells_octets :
    let octets (token : String) : Bytes := (token.toUTF8.data.toList.take 16).rightpad 16 0
    (∀ token,
      (session token).length = 36 ∧
      (∀ i, (session token).toList[i]? = some '-' ↔ i ∈ [8, 13, 18, 23]) ∧
      (∀ c ∈ (session token).toList, c ≠ '-' → c ∈ "0123456789abcdef".toList) ∧
      Hex.decode ((session token).toList.filter (· ≠ '-')) = some (octets token)) ∧
    (∀ t t', session t = session t' ↔ octets t = octets t') ∧
    ∃ token, Utf8.decode (octets token) = none := by
  intro octets
  have hoctets (token : String) : octets token = sessionOctets token := (sessionOctets_eq token).symm
  have hfree (token : String) : '-' ∉ Hex.encode (sessionOctets token) := Hex.hyphen_notMem_encode _
  refine ⟨fun token => ⟨?_, fun i => ?_, fun c hc hne => ?_, ?_⟩, fun t t' => ?_,
    "0123456789abcd€", by decide⟩
  · exact length_grouped (length_sessionDigits token)
  · exact hyphen_iff (length_sessionDigits token) (hfree token)
  · exact Hex.mem_of_mem_encode (mem_of_mem_grouped hc hne (hfree token))
  · rw [hoctets, decode_session]
  · rw [hoctets, hoctets, session_eq_iff]

/-- Two tokens that differ in the last octet of a character share the session that is cut within it. -/
theorem session_spells_octets_cut :
    'e' ∈ (session "0123456789abcd€").toList ∧ 'e' ≠ '-' ∧ 'e' ∈ "0123456789abcdef".toList ∧
      Hex.decode ((session "0123456789abcd€").toList.filter (· ≠ '-')) =
        some (Utf8.encode "0123456789abcd" ++ [0xE2, 0x82]) ∧
      session "0123456789abcd€" = session "0123456789abcd₭" := by
  obtain ⟨hspells, hshares, -⟩ := session_spells_octets
  obtain ⟨-, -, hdigits, hdecode⟩ := hspells "0123456789abcd€"
  have he : 'e' ∈ (session "0123456789abcd€").toList := by decide
  exact ⟨he, by decide, hdigits 'e' he (by decide), hdecode.trans (by decide), (hshares _ _).mpr (by decide)⟩

/-- A token of at most sixteen octets, of which the last one is no zero. -/
def Fits (token : String) : Prop := (Utf8.encode token).length ≤ 16 ∧ (Utf8.encode token).getLast? ≠ some 0

/-- What fits can be told from the zeros behind it. -/
theorem Fits.rdropWhile_sessionOctets (h : Fits t) :
    (sessionOctets t).rdropWhile (· = 0) = Utf8.encode t := by
  have hlast : (Utf8.encode t).rdropWhile (· = 0) = Utf8.encode t := by
    rw [List.rdropWhile_eq_self_iff]
    intro hne hzero
    exact h.2 (by rw [List.getLast?_eq_some_getLast hne, of_decide_eq_true hzero])
  have hzeros (k : Nat) : (Utf8.encode t ++ List.replicate k 0).rdropWhile (· = 0) = Utf8.encode t := by
    induction k with
    | zero => rw [List.replicate_zero, List.append_nil, hlast]
    | succ k ih =>
      rw [List.replicate_succ', ← List.append_assoc, List.rdropWhile_concat_pos _ _ _ (by decide), ih]
  rw [sessionOctets, List.take_of_length_le h.1, hzeros]

/-- Tokens that fit have sessions of their own. -/
theorem session_injOn : Set.InjOn session {token | Fits token} := by
  intro t ht t' ht' h
  apply Utf8.encode_injective
  rw [← Fits.rdropWhile_sessionOctets ht, session_eq_iff.mp h, Fits.rdropWhile_sessionOctets ht']

-- a zero at the end of a token is lost
example : session "a" = session "a\x00" := by decide

end Session

end Identifier

namespace Backend

open Dialogue
open Identifier (session sessionOctets session_eq_iff)

variable {b : Backend} {key t t' : String} {o : GetOptions} {turns turns' : List (Turn Remote.protocol)}
  {r r' : Except Fault Reply}

theorem find?_params (o : GetOptions) : Entries.find? "filesessionid" o.params = o.ifMatch.map session := by
  rw [GetOptions.params]
  split_ifs <;> cases o.ifMatch <;> rfl

/-- A token adds one parameter behind the others. -/
theorem params_conditional (o : GetOptions) (token : String) : { o with ifMatch := some token }.params =
    { o with ifMatch := none }.params ++ [("filesessionid", session token)] := by
  rw [GetOptions.params, GetOptions.params, List.append_nil]

theorem openRequest_conditional_inj :
    b.openRequest key { o with ifMatch := some t } = b.openRequest key { o with ifMatch := some t' } ↔
      session t = session t' := by
  rw [openRequest, openRequest, params_conditional, params_conditional]
  simp

theorem questions_of_get (h : Went (b.perform (.get key o)).run turns r) :
    turns.map Turn.question = [b.openRequest key o] := by
  obtain ⟨answer, rfl, -⟩ := went_get.mp h
  rfl

/-- To open an object is to make one request, which names the session of the token if there is one. -/
theorem get_names_session (h : Went (b.perform (.get key o)).run turns r) :
    ∃ request, turns.map Turn.question = [request] ∧
      Entries.find? "filesessionid" request.params = o.ifMatch.map session :=
  ⟨b.openRequest key o, questions_of_get h, find?_params o⟩

/-- Two openings of the same part of an object ask for the same exactly if their tokens agree in the octets
of their sessions. -/
theorem get_asks_same_iff (h : Went (b.perform (.get key { o with ifMatch := some t })).run turns r)
    (h' : Went (b.perform (.get key { o with ifMatch := some t' })).run turns' r') :
    turns.map Turn.question = turns'.map Turn.question ↔ sessionOctets t = sessionOctets t' := by
  rw [questions_of_get h, questions_of_get h', List.singleton_inj, openRequest_conditional_inj,
    session_eq_iff]

end Backend

end LakeStore
