import Mathlib.Algebra.Order.Field.Power
import Mathlib.Data.Rat.Floor
import Mathlib.Tactic.FieldSimp
import Mathlib.Tactic.Linarith
import Mathlib.Tactic.Positivity
import LakeStore.Number.Binary64

/-!
How far binary floating point is from what it stands for.

A positive ratio gets an exponent at which its mantissa has 53 bits, or the least one; so to round it is to
be off by half a unit of that exponent at most. Below a power of two the unit is known, and from one on it
is a fraction of the number itself. Integers of up to 53 bits are what they stand for.
-/

namespace LakeStore

theorem cast_twoTo (n : Nat) : ((twoTo n : Nat) : Rat) = 2 ^ n := Nat.cast_pow 2 n

/-- What is rounded to the nearest number is off by a half at most. -/
theorem abs_roundHalfEven_sub_le (num : Nat) {den : Nat} (hden : 0 < den) :
    |(roundHalfEven num den : Rat) - num / den| ≤ 1 / 2 := by
  have hbounds : 2 * (roundHalfEven num den * den) ≤ 2 * num + den ∧
      2 * num ≤ 2 * (roundHalfEven num den * den) + den := by
    have hdivision : num / den * den + num % den = num := Nat.div_add_mod' num den
    have hrest : num % den < den := Nat.mod_lt num hden
    rw [roundHalfEven]
    split_ifs with hup
    · rw [Nat.add_mul, Nat.one_mul]; omega
    · omega
  have hpos : (0 : Rat) < den := Nat.cast_pos.mpr hden
  obtain ⟨hle, hge⟩ := hbounds
  have hle : 2 * ((roundHalfEven num den : Rat) * den) ≤ 2 * num + den := by exact_mod_cast hle
  have hge : 2 * (num : Rat) ≤ 2 * (roundHalfEven num den * den) + den := by exact_mod_cast hge
  have hsub : (roundHalfEven num den : Rat) - num / den = (roundHalfEven num den * den - num) / den := by
    field_simp
  rw [hsub, abs_div, abs_of_pos hpos, div_le_iff₀ hpos, abs_le]
  constructor <;> linarith

namespace Binary64

/-- The value of a sign. -/
def signOf (negative : Bool) : Rat := if negative then -1 else 1

theorem abs_signOf_mul (negative : Bool) (x : Rat) : |signOf negative * x| = |x| := by
  cases negative <;> simp [signOf]

section Scaled

variable (e : Int)

theorem scaled_den_pos (num : Nat) {den : Nat} (hden : 0 < den) : 0 < (scaled num den e).2 := by
  rw [scaled]
  split_ifs
  · exact Nat.mul_pos hden (Nat.pow_pos (by decide))
  · exact hden

theorem scaled_div (num den : Nat) :
    ((scaled num den e).1 : Rat) / (scaled num den e).2 = num / den / 2 ^ e := by
  rw [scaled]
  split_ifs with he
  · obtain ⟨n, rfl⟩ := Int.eq_ofNat_of_zero_le he
    simp only [Int.toNat_natCast, Nat.cast_mul, cast_twoTo, zpow_natCast, div_div]
  · obtain ⟨n, rfl⟩ : ∃ n : Nat, e = -(n : Int) := ⟨(-e).toNat, by omega⟩
    simp only [Int.neg_neg, Int.toNat_natCast, Nat.cast_mul, cast_twoTo, zpow_neg, zpow_natCast,
      div_inv_eq_mul]
    ring

end Scaled

/-- What a finite number stands for. -/
theorem toRat?_finite (negative : Bool) (m : Nat) (e : Int) :
    (finite negative m e).toRat? = some (signOf negative * (m * 2 ^ e)) := by
  have hvalue : ((scaled m 1 (-e)).1 : Rat) / (scaled m 1 (-e)).2 = m * 2 ^ e := by
    rw [scaled_div, Nat.cast_one, div_one, zpow_neg, div_inv_eq_mul]
  rw [toRat?, ← hvalue, signOf]
  cases negative
  · simp
  · simp [neg_div]

/-- A positive ratio has the least exponent, or a mantissa of 53 bits. -/
theorem exponentFor_spec {num den : Nat} (hnum : num ≠ 0) (hden : 0 < den) :
    leastExponent ≤ exponentFor num den ∧
      (exponentFor num den = leastExponent ∨ 2 ^ (exponentFor num den + 52) ≤ (num / den : Rat)) := by
  have hdenRat : (0 : Rat) < den := Nat.cast_pos.mpr hden
  generalize he : (num.log2 : Int) - den.log2 - 52 = e
  have hexponent : exponentFor num den =
      max leastExponent (if (scaled num den e).2 * twoTo 52 ≤ (scaled num den e).1 then e else e - 1) := by
    rw [← he]; rfl
  rw [hexponent]
  refine ⟨le_max_left _ _, ?_⟩
  rcases le_or_gt (if (scaled num den e).2 * twoTo 52 ≤ (scaled num den e).1 then e else e - 1)
    leastExponent with
    hleast | hmore
  · exact .inl (max_eq_left hleast)
  · right
    rw [max_eq_right hmore.le]
    split_ifs with hfull
    · have hcast : ((scaled num den e).2 : Rat) * 2 ^ 52 ≤ (scaled num den e).1 := by exact_mod_cast hfull
      have hpos : (0 : Rat) < (scaled num den e).2 := Nat.cast_pos.mpr (scaled_den_pos e num hden)
      have hratio : (2 : Rat) ^ 52 ≤ num / den / 2 ^ e := by
        rw [← scaled_div, le_div_iff₀ hpos, mul_comm]
        exact hcast
      rw [le_div_iff₀ (by positivity)] at hratio
      rw [zpow_add₀ (by norm_num), mul_comm]
      exact_mod_cast hratio
    · have hlow : (2 : Rat) ^ num.log2 ≤ num := by exact_mod_cast Nat.log2_self_le hnum
      have hhigh : (den : Rat) ≤ 2 ^ (den.log2 + 1) := by exact_mod_cast Nat.lt_log2_self.le
      have hpower : (2 : Rat) ^ (e - 1 + 52) = 2 ^ num.log2 / 2 ^ (den.log2 + 1) := by
        rw [← zpow_natCast, ← zpow_natCast, ← zpow_sub₀ (by norm_num)]
        congr 1
        push_cast
        omega
      rw [hpower]
      exact div_le_div₀ (Nat.cast_nonneg _) hlow hdenRat hhigh

/-- A ratio that is too large is infinite; any other one is its mantissa, rounded, at its exponent. -/
theorem ofRatio_cases (negative : Bool) {num den m : Nat} {e : Int} (hnum : num ≠ 0)
    (he : exponentFor num den = e) (hm : roundHalfEven (scaled num den e).1 (scaled num den e).2 = m) :
    (greatestExponent ≤ e ∧ ofRatio negative num den = .infinite negative) ∨
      (ofRatio negative num den).toRat? = some (signOf negative * (m * 2 ^ e)) := by
  -- the value stays the same when the mantissa is carried
  have hcarried (h : m = twoTo 53) : (m : Rat) * 2 ^ e = (twoTo 52 : Nat) * 2 ^ (e + 1) := by
    rw [h, cast_twoTo, cast_twoTo, zpow_add₀ (by norm_num), zpow_one]
    ring
  rw [ofRatio, if_neg hnum, he]
  -- these two must not be counted out
  generalize twoTo 53 = full at hcarried ⊢
  generalize twoTo 52 = half at hcarried ⊢
  by_cases hcarry : m = full
  · simp only [hm, if_pos hcarry]
    split_ifs with hlarge
    · exact .inl ⟨Int.lt_add_one_iff.mp hlarge, rfl⟩
    · exact .inr (by rw [toRat?_finite, hcarried hcarry])
  · simp only [hm, if_neg hcarry]
    split_ifs with hlarge
    · exact .inl ⟨hlarge.le, rfl⟩
    · exact .inr (toRat?_finite _ _ _)

/-- A number is off from `x` by `h` at most. -/
def Near (y : Binary64) (x h : Rat) : Prop := ∃ v, y.toRat? = some v ∧ |v - x| ≤ h

theorem Near.mono {y : Binary64} {x h h' : Rat} (hy : Near y x h) (hle : h ≤ h') : Near y x h' :=
  hy.imp fun _ ⟨hv, hnear⟩ => ⟨hv, hnear.trans hle⟩

theorem near_ofRatio (negative : Bool) {num den : Nat} (hnum : num ≠ 0) (hden : 0 < den) :
    (greatestExponent ≤ exponentFor num den ∧ ofRatio negative num den = .infinite negative) ∨
      Near (ofRatio negative num den) (signOf negative * (num / den)) (2 ^ exponentFor num den / 2) := by
  generalize he : exponentFor num den = e
  refine (ofRatio_cases negative hnum he rfl).imp_right fun hvalue => ⟨_, hvalue, ?_⟩
  have hunit : (0 : Rat) < 2 ^ e := by positivity
  have hround := abs_roundHalfEven_sub_le (scaled num den e).1 (scaled_den_pos e num hden)
  rw [scaled_div] at hround
  generalize roundHalfEven (scaled num den e).1 (scaled num den e).2 = m at hround
  calc |signOf negative * (m * 2 ^ e) - signOf negative * (num / den)|
      = |signOf negative * ((m - num / den / 2 ^ e) * 2 ^ e)| := by
        congr 1
        field_simp
    _ = |(m : Rat) - num / den / 2 ^ e| * 2 ^ e := by rw [abs_signOf_mul, abs_mul, abs_of_pos hunit]
    _ ≤ 1 / 2 * 2 ^ e := mul_le_mul_of_nonneg_right hround hunit.le
    _ = 2 ^ e / 2 := by ring

/-! ### Rationals -/

section Rational

variable {x : Rat} {k : Int}

theorem num_div_den_abs (x : Rat) : (x.num.natAbs : Rat) / x.den = |x| := by
  rw [Nat.cast_natAbs, Int.cast_abs, ← Nat.abs_cast x.den, ← abs_div, Rat.num_div_den]

theorem signOf_mul_abs (x : Rat) : signOf (x < 0) * |x| = x := by
  rw [signOf]
  by_cases hx : x < 0
  · simp [hx, abs_of_neg]
  · simp [hx, abs_of_nonneg (not_lt.mp hx)]

theorem toRat?_ofRat_zero : (ofRat 0).toRat? = some 0 := by simp [ofRat, ofRatio, toRat?_finite]

theorem near_ofRat (hx : x ≠ 0) :
    let e := exponentFor x.num.natAbs x.den
    (greatestExponent ≤ e ∧ ofRat x = .infinite (x < 0)) ∨ Near (ofRat x) x (2 ^ e / 2) := by
  have h := near_ofRatio (x < 0) (Int.natAbs_ne_zero.mpr (Rat.num_ne_zero.mpr hx)) x.den_pos
  rwa [num_div_den_abs, signOf_mul_abs] at h

/-- Below a power of two, a rational is rounded by half of what 53 bits leave of that power. -/
theorem near_ofRat_of_lt (hleast : -1021 ≤ k) (hmost : k ≤ 1023) (hx : |x| < 2 ^ k) :
    Near (ofRat x) x (2 ^ (k - 54)) := by
  by_cases hzero : x = 0
  · subst hzero
    exact ⟨0, toRat?_ofRat_zero, by rw [sub_zero, abs_zero]; positivity⟩
  obtain ⟨-, hspec⟩ := exponentFor_spec (Int.natAbs_ne_zero.mpr (Rat.num_ne_zero.mpr hzero)) x.den_pos
  have hnear := near_ofRat hzero
  rw [num_div_den_abs] at hspec
  generalize exponentFor x.num.natAbs x.den = e at hspec hnear
  have he : e ≤ k - 53 := by
    rcases hspec with rfl | hle
    · rw [leastExponent]; omega
    · have hlt : e + 52 < k := (zpow_lt_zpow_iff_right₀ (by norm_num)).mp (hle.trans_lt hx)
      omega
  refine (hnear.resolve_left fun hlarge => ?_).mono ?_
  · have := hlarge.1
    rw [greatestExponent] at this
    omega
  · calc (2 : Rat) ^ e / 2 ≤ 2 ^ (k - 53) / 2 := by gcongr; norm_num
      _ = 2 ^ (k - 54) := by rw [show k - 53 = k - 54 + 1 by ring, zpow_add₀ (by norm_num), zpow_one]; ring

/-- From one on, a rational that is not too large is rounded by a fraction of itself. -/
theorem near_ofRat_of_le (hx : 1 ≤ |x|) : (ofRat x).toRat? = none ∨ Near (ofRat x) x (|x| / 2 ^ 53) := by
  have hzero : x ≠ 0 := fun h => by rw [h, abs_zero] at hx; exact absurd hx (by norm_num)
  obtain ⟨-, hspec⟩ := exponentFor_spec (Int.natAbs_ne_zero.mpr (Rat.num_ne_zero.mpr hzero)) x.den_pos
  have hnear := near_ofRat hzero
  rw [num_div_den_abs] at hspec
  generalize exponentFor x.num.natAbs x.den = e at hspec hnear
  refine hnear.imp (fun hlarge => by rw [hlarge.2]; rfl) fun hnear => hnear.mono ?_
  have he : (2 : Rat) ^ (e + 52) ≤ |x| := by
    rcases hspec with rfl | hle
    · exact (zpow_le_one_of_nonpos₀ (by norm_num) (by decide)).trans hx
    · exact hle
  rw [zpow_add₀ (by norm_num), show (52 : Int) = (52 : Nat) from rfl, zpow_natCast] at he
  rw [le_div_iff₀ (by positivity)]
  calc (2 : Rat) ^ e / 2 * 2 ^ 53 = 2 ^ e * 2 ^ 52 := by ring
    _ ≤ |x| := he

end Rational

/-! ### Integers, products and quotients -/

theorem ofInt_eq_ofRat (n : Int) : ofInt n = ofRat n := by
  simp [ofInt, ofRat]

theorem roundHalfEven_one (n : Nat) : roundHalfEven n 1 = n := by
  simp [roundHalfEven, Nat.mod_one]

/-- Integers of up to 53 bits are what they stand for. -/
theorem toRat?_ofInt {n : Int} (hn : |n| < 2 ^ 53) : (ofInt n).toRat? = some (n : Rat) := by
  by_cases hzero : n = 0
  · subst hzero
    rw [ofInt_eq_ofRat, Int.cast_zero, toRat?_ofRat_zero]
  have habs : (n.natAbs : Rat) = |(n : Rat)| := by rw [Nat.cast_natAbs, Int.cast_abs]
  obtain ⟨-, hspec⟩ := exponentFor_spec (Int.natAbs_ne_zero.mpr hzero) Nat.one_pos
  generalize he : exponentFor n.natAbs 1 = e at hspec
  have hexponent : e ≤ 0 := by
    rcases hspec with rfl | hle
    · decide
    · have hlt : |(n : Rat)| < 2 ^ (53 : Int) := by exact_mod_cast hn
      rw [Nat.cast_one, div_one, habs] at hle
      have := (zpow_lt_zpow_iff_right₀ (by norm_num)).mp (hle.trans_lt hlt)
      omega
  -- no bit lies behind the point
  have hwhole : (scaled n.natAbs 1 e).2 = 1 := by
    rw [scaled]
    split_ifs with hnonneg
    · obtain rfl : e = 0 := le_antisymm hexponent hnonneg
      rfl
    · rfl
  have hscaled := scaled_div e n.natAbs 1
  rw [hwhole, Nat.cast_one, div_one, div_one, habs] at hscaled
  have hvalue := (ofRatio_cases (n < 0) (Int.natAbs_ne_zero.mpr hzero) he rfl).resolve_left fun hlarge => by
    have := hlarge.1
    rw [greatestExponent] at this
    omega
  have hsign : signOf (n < 0) * |(n : Rat)| = n := by
    have h := signOf_mul_abs (n : Rat)
    rwa [show decide ((n : Rat) < 0) = decide (n < 0) by simp] at h
  rw [hwhole, roundHalfEven_one, hscaled, div_mul_cancel₀ _ (by positivity), hsign] at hvalue
  exact hvalue

section Operations

variable {x y : Binary64} {a b h : Rat}

theorem Near.ofExact (hq : Near (ofRat a) a h) (negative : Bool) : Near (ofExact negative a) a h := by
  rw [Binary64.ofExact]
  split_ifs with hzero
  · obtain ⟨v, hv, hnear⟩ := hq
    refine ⟨0, by simp [toRat?_finite], ?_⟩
    rw [hzero, sub_zero, abs_zero]
    exact (abs_nonneg _).trans hnear
  · exact hq

theorem toRat?_ofExact (hq : (ofRat a).toRat? = none) (ha : a ≠ 0) (negative : Bool) :
    (Binary64.ofExact negative a).toRat? = none := by rwa [Binary64.ofExact, if_neg ha]

/-- A product is the exact one, rounded. -/
theorem mul_eq (hx : x.toRat? = some a) (hy : y.toRat? = some b) :
    ∃ negative, x.mul y = Binary64.ofExact negative (a * b) := by
  cases x with
  | nan => cases hx
  | infinite s => cases hx
  | finite s m e =>
    cases y with
    | nan => cases hy
    | infinite s => cases hy
    | finite s' m' e' => exact ⟨s != s', by simp only [mul, hx, hy, Option.getD_some, isNegative]⟩

/-- A quotient is the exact one, rounded. -/
theorem div_eq (hx : x.toRat? = some a) (hy : y.toRat? = some b) (hb : b ≠ 0) :
    ∃ negative, x.div y = Binary64.ofExact negative (a / b) := by
  cases x with
  | nan => cases hx
  | infinite s => cases hx
  | finite s m e =>
    cases y with
    | nan => cases hy
    | infinite s => cases hy
    | finite s' m' e' =>
      have hnonzero : (finite s' m' e').isZero = false := by
        rw [toRat?_finite] at hy
        obtain rfl := Option.some.inj hy
        refine beq_eq_false_iff_ne.mpr ?_
        rintro rfl
        simp at hb
      exact ⟨s != s',
        by simp only [div, hx, hy, hnonzero, Option.getD_some, isNegative, Bool.false_eq_true, if_false]⟩

/-- What is rounded to an integer is off by a half at most. -/
theorem abs_roundRat_sub_le (a : Rat) : |(roundRat a : Rat) - a| ≤ 1 / 2 := by
  have hround := abs_roundHalfEven_sub_le a.num.natAbs a.den_pos
  rw [num_div_den_abs] at hround
  have hvalue : (roundRat a : Rat) = signOf (a < 0) * roundHalfEven a.num.natAbs a.den := by
    rw [roundRat, signOf]
    by_cases ha : a < 0 <;> simp [ha]
  calc |(roundRat a : Rat) - a|
      = |signOf (a < 0) * (roundHalfEven a.num.natAbs a.den - |a|)| := by
        rw [hvalue, mul_sub, signOf_mul_abs]
    _ ≤ 1 / 2 := by rwa [abs_signOf_mul]

theorem isFinite_eq_isSome (x : Binary64) : x.isFinite = x.toRat?.isSome := by cases x <;> rfl

end Operations

end Binary64

end LakeStore
