import LakeStore.Proofs.Rounding
import LakeStore.Time.Instant

/-!
Which counts of milliseconds are instants, and how exactly.

A count is an instant exactly in the years 1 to 9999. Up to 2 ^ 33 seconds from 1970 the instant is exact.
Farther away a second has fewer bits behind its point than a microsecond needs, and the instant may be up to
15 microseconds off; that is never enough to change the order of two counts.
-/

namespace LakeStore

namespace Date

/-- Which days lie in the years 1 to 9999. -/
theorem year_ofDayNumber (n : Int) :
    (1 ≤ (ofDayNumber n).year ↔ -719162 ≤ n) ∧ ((ofDayNumber n).year ≤ 9999 ↔ n ≤ 2932896) := by
  simp only [ofDayNumber]
  rw [Int.fdiv_eq_ediv_of_nonneg _ (by decide), Int.fmod_eq_emod_of_nonneg _ (by decide)]
  generalize hz : n + 719468 = z
  obtain ⟨day, hday⟩ := Int.eq_ofNat_of_zero_le (Int.emod_nonneg z (b := 146097) (by decide))
  rw [hday, Int.toNat_natCast]
  generalize hera : z / 146097 = era
  have hz : z = 146097 * era + day := by omega
  have hlt : day < 146097 := by omega
  clear hera hday
  -- only in the first and in the last year of an era does it matter which day it is
  generalize hyear : (day - day / 1460 + day / 36524 - day / 146096) / 365 = year
  have hfirst : year = 0 ↔ day ≤ 364 := by omega
  have hlast : year = 399 ↔ 145731 ≤ day := by omega
  have hmost : year ≤ 399 := by omega
  clear hyear
  generalize hdayOfYear : day - (365 * year + year / 4 - year / 100) = dayOfYear
  generalize hlate : (if (if (5 * dayOfYear + 2) / 153 < 10 then (5 * dayOfYear + 2) / 153 + 3
    else (5 * dayOfYear + 2) / 153 - 9) ≤ 2 then (1 : Int) else 0) = late
  have hlateBounds : late = 0 ∨ late = 1 := by
    rw [← hlate]
    split_ifs <;> omega
  have hlateDays : dayOfYear ≤ 365 → (late = 1 ↔ 306 ≤ dayOfYear) := by
    rw [← hlate]
    split_ifs <;> omega
  clear hlate
  omega

end Date

namespace Instant

/-! ### The calendar -/

/-- The first second of the year 1, and the last one of the year 9999. -/
def InCalendar (seconds : Int) : Prop := -62135596800 ≤ seconds ∧ seconds ≤ 253402300799

theorem year_iff_inCalendar (seconds : Int) :
    1 ≤ (Date.ofDayNumber (seconds.fdiv 86400)).year ∧ (Date.ofDayNumber (seconds.fdiv 86400)).year ≤ 9999 ↔
      InCalendar seconds := by
  obtain ⟨hleast, hmost⟩ := Date.year_ofDayNumber (seconds.fdiv 86400)
  rw [hleast, hmost, InCalendar, Int.fdiv_eq_ediv_of_nonneg _ (by decide)]
  omega

theorem ofParts_of_inCalendar {seconds : Int} (h : InCalendar seconds) (micros : Int) :
    ofParts seconds micros = .ok ⟨seconds * 1000000 + micros⟩ := by
  obtain ⟨hfirst, hlast⟩ := (year_iff_inCalendar seconds).mpr h
  obtain ⟨hleast, hmost⟩ := h
  have hword : (twoTo 63 : Int) = 9223372036854775808 := by rw [twoTo]; rfl
  have hhalf : (twoTo 31 : Int) = 2147483648 := by rw [twoTo]; rfl
  have hyear : yearOf seconds = .ok (Date.ofDayNumber (seconds.fdiv 86400)).year := by
    simp only [yearOf]
    rw [if_neg (by rw [hword]; omega), if_neg (by rw [hhalf]; omega)]
  rw [ofParts, hyear]
  exact if_neg (by omega)

theorem ofParts_of_not_inCalendar {seconds : Int} (h : ¬ InCalendar seconds) (micros : Int) :
    ∃ fault, ofParts seconds micros = .error fault := by
  cases hyear : yearOf seconds with
  | error fault => exact ⟨fault, by rw [ofParts, hyear]; rfl⟩
  | ok year =>
    have heq : year = (Date.ofDayNumber (seconds.fdiv 86400)).year := by
      simp only [yearOf] at hyear
      split_ifs at hyear
      exact (Except.ok.inj hyear).symm
    have hout : year < 1 ∨ 9999 < year := by
      rw [← year_iff_inCalendar, ← heq] at h
      omega
    refine ⟨.year (year.bmod (twoTo 32)), ?_⟩
    rw [ofParts, hyear]
    exact if_pos hout

/-- A total of microseconds is an instant of its own in the years 1 to 9999. -/
theorem ofParts_total_eq_ok {total : Int} {t : Instant} :
    ofParts (total / 1000000) (total % 1000000) = .ok t ↔
      (-62135596800000000 ≤ total ∧ total < 253402300800000000) ∧ t = ⟨total⟩ := by
  have hcalendar : InCalendar (total / 1000000) ↔
    -62135596800000000 ≤ total ∧ total < 253402300800000000 := by
    rw [InCalendar]
    omega
  rw [← hcalendar]
  by_cases h : InCalendar (total / 1000000)
  · rw [ofParts_of_inCalendar h, Int.ediv_mul_add_emod, Except.ok.injEq, eq_comm]
    exact (and_iff_right h).symm
  · obtain ⟨fault, hfault⟩ := ofParts_of_not_inCalendar h (total % 1000000)
    rw [hfault]
    exact iff_of_false nofun fun hin => h hin.1

/-! ### Seconds -/

/-- Seconds without their fraction. -/
def wholeOf (q : Rat) : Int := if q < 0 then -((-q).floor) else q.floor

theorem abs_sub_wholeOf_lt (q : Rat) : |q - wholeOf q| < 1 := by
  rw [wholeOf, abs_lt]
  split_ifs with hneg
  · have hle := Rat.floor_le (-q)
    have hlt := Rat.lt_floor_add_one (-q)
    push_cast at hlt ⊢
    constructor <;> linarith
  · have hle := Rat.floor_le q
    have hlt := Rat.lt_floor_add_one q
    push_cast at hlt
    constructor <;> linarith

/-- The microseconds that a fraction of a second is rounded to. -/
def microsOf (fraction : Rat) : Int :=
  Binary64.roundRat ((Binary64.mul (Binary64.ofRat fraction) (Binary64.ofInt 1000000)).toRat?.getD 0)

theorem abs_microsOf_sub_le {fraction : Rat} (h : |fraction| < 1) :
    |(microsOf fraction : Rat) - fraction * 1000000| ≤ 1 / 2 + 1 / 2 ^ 33 := by
  obtain ⟨v, hv, hnear⟩ := Binary64.near_ofRat_of_lt (k := 0) (by decide) (by decide) (by rwa [zpow_zero])
  have hmillion : (Binary64.ofInt 1000000).toRat? = some 1000000 := Binary64.toRat?_ofInt (by decide)
  obtain ⟨negative, hproduct⟩ := Binary64.mul_eq hv hmillion
  have hbelow : |v * 1000000| < 2 ^ (20 : Int) := by
    rw [abs_lt] at h ⊢
    rw [abs_le] at hnear
    norm_num at hnear ⊢
    constructor <;> linarith
  obtain ⟨w, hw, hnearProduct⟩ := (Binary64.near_ofRat_of_lt (by decide) (by decide) hbelow).ofExact negative
  have hround := Binary64.abs_roundRat_sub_le w
  rw [microsOf, hproduct, hw, Option.getD_some]
  rw [abs_le] at hnear hnearProduct hround ⊢
  norm_num at hnear hnearProduct hround ⊢
  constructor <;> linarith

/-- An instant some seconds away is that of a total of microseconds, which is the exact one, rounded. -/
theorem ofSeconds_eq_ofParts {t : Binary64} {q : Rat} (hq : t.toRat? = some q) :
    ∃ total : Int, ofSeconds t = ofParts (total / 1000000) (total % 1000000) ∧
      |(total : Rat) - q * 1000000| ≤ 1 / 2 + 1 / 2 ^ 33 := by
  have hfraction := abs_sub_wholeOf_lt q
  have hmicros := abs_microsOf_sub_le hfraction
  have hseconds : ofSeconds t =
      if 1000000 ≤ microsOf (q - wholeOf q) then
        ofParts (wholeOf q + 1) (microsOf (q - wholeOf q) - 1000000)
      else if microsOf (q - wholeOf q) < 0 then
        ofParts (wholeOf q - 1) (microsOf (q - wholeOf q) + 1000000)
      else ofParts (wholeOf q) (microsOf (q - wholeOf q)) := by
    rw [ofSeconds, hq]; rfl
  have hbounds : -1000000 ≤ microsOf (q - wholeOf q) ∧ microsOf (q - wholeOf q) ≤ 1000000 := by
    rw [abs_lt] at hfraction
    rw [abs_le] at hmicros
    norm_num at hmicros
    have hleast : (-1000001 : Rat) < microsOf (q - wholeOf q) := by linarith
    have hmost : (microsOf (q - wholeOf q) : Rat) < 1000001 := by linarith
    have hleast : (-1000001 : Int) < microsOf (q - wholeOf q) := by exact_mod_cast hleast
    have hmost : microsOf (q - wholeOf q) < (1000001 : Int) := by exact_mod_cast hmost
    omega
  rw [hseconds]
  generalize microsOf (q - wholeOf q) = micros at hmicros hbounds
  refine ⟨wholeOf q * 1000000 + micros, ?_, ?_⟩
  · split_ifs with hcarry hborrow <;> congr 1 <;> omega
  · push_cast
    rwa [show (wholeOf q : Rat) * 1000000 + micros - q * 1000000 = micros - (q - wholeOf q) * 1000000 by ring]

/-! ### Milliseconds -/

/-- Among the first 2 ^ `k` seconds from 1970, a count is off by what the seconds and the microseconds are
rounded by. -/
theorem ofMillis_eq_ofParts {m k : Int} (hm : |(m : Rat) / 1000| < 2 ^ k) (hleast : 0 ≤ k) (hmost : k ≤ 43) :
    ∃ total : Int, ofMillis m = ofParts (total / 1000000) (total % 1000000) ∧
      |(total : Rat) - 1000 * m| ≤ 1 / 2 + 1 / 2 ^ 33 + 1000000 * 2 ^ (k - 54) := by
  have hcount : (Binary64.ofInt m).toRat? = some (m : Rat) := by
    refine Binary64.toRat?_ofInt ?_
    have hle : (2 : Rat) ^ k ≤ 2 ^ (43 : Int) := zpow_le_zpow_right₀ (by norm_num) hmost
    have hlt : |(m : Rat)| < 2 ^ 53 := by
      rw [abs_div, abs_of_pos (by norm_num : (0 : Rat) < 1000), div_lt_iff₀ (by norm_num)] at hm
      norm_num at hle ⊢
      linarith
    exact_mod_cast hlt
  have hthousand : (Binary64.ofInt 1000).toRat? = some 1000 := Binary64.toRat?_ofInt (by decide)
  obtain ⟨negative, hquotient⟩ := Binary64.div_eq hcount hthousand (by norm_num)
  obtain ⟨q, hq, hnear⟩ := (Binary64.near_ofRat_of_lt (by omega) (by omega) hm).ofExact negative
  rw [← hquotient] at hq
  obtain ⟨total, htotal, hround⟩ := ofSeconds_eq_ofParts hq
  refine ⟨total, ?_, ?_⟩
  · rw [ofMillis, if_pos (by rw [Binary64.isFinite_eq_isSome, hcount]; rfl), htotal]
  · generalize (2 : Rat) ^ (k - 54) = unit at hnear ⊢
    rw [abs_le] at hnear hround ⊢
    constructor <;> linarith

/-- What is rounded by a tiny fraction of itself keeps almost all of its size. -/
theorem le_abs_of_near {x v : Rat} (h : |v - x| ≤ |x| / 2 ^ 53) : |x| * (1 - 1 / 2 ^ 53) ≤ |v| := by
  have htriangle := abs_sub_abs_le_abs_sub x v
  rw [abs_sub_comm] at htriangle
  linarith

/-- A count that is 2 ^ 38 seconds or more away from 1970 is no instant. -/
theorem ofMillis_of_far {m : Int} (hm : 2 ^ (38 : Int) ≤ |(m : Rat) / 1000|) :
    ∃ fault, ofMillis m = .error fault := by
  norm_num [abs_div] at hm
  rw [le_div_iff₀ (by norm_num)] at hm
  rw [ofMillis, Binary64.isFinite_eq_isSome]
  have hcount := Binary64.near_ofRat_of_le (x := m) (by linarith)
  rw [← Binary64.ofInt_eq_ofRat] at hcount
  rcases hcount with hnone | ⟨count, hcount, hnearCount⟩
  · exact ⟨.notANumber, by rw [hnone]; rfl⟩
  rw [hcount, Option.isSome_some, if_pos rfl]
  have hthousand : (Binary64.ofInt 1000).toRat? = some 1000 := Binary64.toRat?_ofInt (by decide)
  obtain ⟨negative, hquotient⟩ := Binary64.div_eq hcount hthousand (by norm_num)
  have hfarCount : 274877906943 ≤ |count / 1000| := by
    have hkept := le_abs_of_near hnearCount
    norm_num [abs_div] at hkept ⊢
    rw [le_div_iff₀ (by norm_num)]
    linarith
  have hnonzero : count / 1000 ≠ 0 := fun h => by rw [h, abs_zero] at hfarCount; norm_num at hfarCount
  rcases Binary64.near_ofRat_of_le (by linarith : 1 ≤ |count / 1000|) with hnone | hnear
  · refine ⟨.notANumber, ?_⟩
    rw [ofSeconds, hquotient, Binary64.toRat?_ofExact hnone hnonzero]
  obtain ⟨q, hq, hnear⟩ := hnear.ofExact negative
  rw [← hquotient] at hq
  obtain ⟨total, htotal, hround⟩ := ofSeconds_eq_ofParts hq
  rw [htotal]
  refine ofParts_of_not_inCalendar (fun hcalendar => ?_) _
  have hbounds : |(total : Rat)| < 260000000000000000 := by
    obtain ⟨hleast, hmost⟩ := hcalendar
    have hbounds : |total| < 260000000000000000 := abs_lt.mpr ⟨by omega, by omega⟩
    exact_mod_cast hbounds
  have hfarSeconds : 270000000000 ≤ |q| := by
    have hkept := le_abs_of_near hnear
    norm_num at hkept
    linarith
  have hfarTotal : |q * 1000000| - |(total : Rat)| ≤ |(total : Rat) - q * 1000000| := by
    rw [abs_sub_comm (total : Rat)]
    exact abs_sub_abs_le_abs_sub _ _
  rw [abs_mul] at hfarTotal
  norm_num at hfarTotal hround
  linarith

/-- Among the first 2 ^ 38 seconds from 1970, a count is off by 15 microseconds at most. -/
theorem ofMillis_total {m : Int} (hm : |(m : Rat) / 1000| < 2 ^ (38 : Int)) :
    ∃ total : Int, ofMillis m = ofParts (total / 1000000) (total % 1000000) ∧ |total - 1000 * m| ≤ 15 := by
  obtain ⟨total, htotal, hoff⟩ := ofMillis_eq_ofParts hm (by decide) (by decide)
  refine ⟨total, htotal, ?_⟩
  have hlt : |(total : Rat) - 1000 * m| < 16 := hoff.trans_lt (by norm_num)
  have hlt : |total - 1000 * m| < 16 := by exact_mod_cast hlt
  exact Int.lt_add_one_iff.mp hlt

/-- Less than 2 ^ 33 seconds from 1970, a count is not off at all. -/
theorem ofMillis_total_of_near {m : Int} (hm : |(m : Rat) / 1000| < 2 ^ (33 : Int)) :
    ofMillis m = ofParts (1000 * m / 1000000) (1000 * m % 1000000) := by
  obtain ⟨total, htotal, hoff⟩ := ofMillis_eq_ofParts hm (by decide) (by decide)
  have hlt : |(total : Rat) - 1000 * m| < 1 := hoff.trans_lt (by norm_num)
  have hlt : |total - 1000 * m| < 1 := by exact_mod_cast hlt
  obtain rfl : total = 1000 * m := by rw [abs_lt] at hlt; omega
  exact htotal

/-- Which counts are less than 2 ^ `k` seconds from 1970. -/
theorem abs_div_lt_iff (m : Int) (k : Nat) : |(m : Rat) / 1000| < 2 ^ (k : Int) ↔ |m| < 1000 * 2 ^ k := by
  rw [abs_div, abs_of_pos (by norm_num : (0 : Rat) < 1000), div_lt_iff₀ (by norm_num), mul_comm, zpow_natCast]
  exact_mod_cast Iff.rfl

/-- The first second of the year 1. -/
theorem ofMillis_first : ofMillis (-62135596800000) = .ok ⟨-62135596800000000⟩ := by decide +kernel

/-- The first second of the year 10000. -/
theorem ofMillis_end : ofMillis 253402300800000 = .error (.year 10000) := by decide +kernel

theorem ofMillis_edge : ofMillis 8589934592000 = .ok ⟨8589934592000000⟩ ∧
    ofMillis (-8589934592000) = .ok ⟨-8589934592000000⟩ := by decide +kernel

/-- The counts of the years 1 to 9999 are the instants. -/
theorem exists_ofMillis_iff {m : Int} : (∃ t, ofMillis m = .ok t) ↔
    -62135596800000 ≤ m ∧ m ≤ 253402300799999 := by
  rcases lt_or_ge |(m : Rat) / 1000| (2 ^ (38 : Int)) with hnear | hfar
  · obtain ⟨total, htotal, hoff⟩ := ofMillis_total hnear
    -- where the calendar begins and ends, 15 microseconds would matter
    by_cases hfirst : m = -62135596800000
    · rw [hfirst]
      exact iff_of_true ⟨_, ofMillis_first⟩ (by decide)
    by_cases hend : m = 253402300800000
    · rw [hend]
      exact iff_of_false (fun ⟨t, ht⟩ => nomatch ofMillis_end.symm.trans ht) (by decide)
    have hok : (∃ t, ofMillis m = .ok t) ↔ -62135596800000000 ≤ total ∧ total < 253402300800000000 := by
      simp only [htotal, ofParts_total_eq_ok, exists_and_left, exists_eq, and_true]
    rw [hok]
    rw [abs_le] at hoff
    omega
  · obtain ⟨fault, hfault⟩ := ofMillis_of_far hfar
    have hlarge := (abs_div_lt_iff m 38).not.mp (not_lt.mpr hfar)
    refine iff_of_false (fun ⟨t, ht⟩ => nomatch hfault.symm.trans ht) fun hin => hlarge ?_
    rw [abs_lt]
    omega

/-- A count is off by 15 microseconds at most, and not at all among the first 2 ^ 33 seconds from 1970. -/
theorem ofMillis_near {m : Int} {t : Instant} (ht : ofMillis m = .ok t) :
    |t.micros - 1000 * m| ≤ 15 ∧ (|m| ≤ 8589934592000 → t.micros = 1000 * m) := by
  obtain ⟨hleast, hmost⟩ := exists_ofMillis_iff.mp ⟨t, ht⟩
  constructor
  · have hnear : |(m : Rat) / 1000| < 2 ^ (38 : Int) :=
      (abs_div_lt_iff m 38).mpr (abs_lt.mpr ⟨by omega, by omega⟩)
    obtain ⟨total, htotal, hoff⟩ := ofMillis_total hnear
    obtain ⟨-, rfl⟩ := ofParts_total_eq_ok.mp (htotal.symm.trans ht)
    exact hoff
  · intro hm
    rcases hm.lt_or_eq with hlt | heq
    · have hnear : |(m : Rat) / 1000| < 2 ^ (33 : Int) := (abs_div_lt_iff m 33).mpr (by omega)
      obtain ⟨-, rfl⟩ := ofParts_total_eq_ok.mp ((ofMillis_total_of_near hnear).symm.trans ht)
      rfl
    · rcases (abs_eq (by decide)).mp heq with rfl | rfl
      · obtain rfl := Except.ok.inj (ofMillis_edge.1.symm.trans ht)
        rfl
      · obtain rfl := Except.ok.inj (ofMillis_edge.2.symm.trans ht)
        rfl

/-- Greater counts are later instants. -/
theorem ofMillis_lt {m n : Int} {t u : Instant} (ht : ofMillis m = .ok t) (hu : ofMillis n = .ok u)
    (h : m < n) : t.micros < u.micros := by
  have hoff := (ofMillis_near ht).1
  have hoff' := (ofMillis_near hu).1
  rw [abs_le] at hoff hoff'
  omega

end Instant

end LakeStore
