import Mathlib.Tactic.Common
import LakeStore.Identifier

/-!
Serial numbers can be read back from the identifiers they are in.

The number is the value of the last group, whose leading zeros do not count; so no two serial numbers have
the same identifier, however many digits they take.
-/

namespace LakeStore.Identifier

/-- The value of a hexadecimal digit. -/
def digitValue (c : Char) : Nat := if c ≤ '9' then c.toNat - '0'.toNat else c.toNat - 'a'.toNat + 10

/-- The value of hexadecimal digits behind a number. -/
def hexValue (digits : List Char) (above : Nat) : Nat :=
  digits.foldl (fun n c => 16 * n + digitValue c) above

theorem digitValue_digitChar (d : Nat) (h : d < 16) : digitValue d.digitChar = d := by
  have key : ∀ e : Fin 16, digitValue (Nat.digitChar e) = e := by decide
  exact key ⟨d, h⟩

theorem hexValue_append (xs ys : List Char) (n : Nat) :
    hexValue (xs ++ ys) n = hexValue ys (hexValue xs n) := List.foldl_append

theorem hexValue_zeros : ∀ k, hexValue (List.replicate k '0') 0 = 0
  | 0 => rfl
  | k + 1 => by rw [List.replicate_succ]; exact hexValue_zeros k

theorem hexValue_toDigits (n : Nat) : hexValue (Nat.toDigits 16 n) 0 = n := by
  induction n using Nat.base_induction 16 (by decide) with
  | single m hm =>
    rw [Nat.toDigits_of_lt_base hm, hexValue, List.foldl_cons, List.foldl_nil, digitValue_digitChar m hm]
    omega
  | digit m k hk hm ih =>
    rw [← Nat.toDigits_append_toDigits (by decide) hm hk, hexValue_append, ih,
      Nat.toDigits_of_lt_base hk, hexValue, List.foldl_cons, List.foldl_nil, digitValue_digitChar k hk]

theorem hexValue_leftpad (n width : Nat) : hexValue ((Nat.toDigits 16 n).leftpad width '0') 0 = n := by
  rw [List.leftpad, hexValue_append, hexValue_zeros, hexValue_toDigits]

/-- No two serial numbers have the same identifier. -/
theorem numbered_injective {m n : Nat} (h : numbered m = numbered n) : m = n := by
  have hdigits : (Nat.toDigits 16 m).leftpad 12 '0' = (Nat.toDigits 16 n).leftpad 12 '0' :=
    String.ofList_injective ((String.append_right_inj _).mp h)
  rw [← hexValue_leftpad m 12, hdigits, hexValue_leftpad]

end LakeStore.Identifier
