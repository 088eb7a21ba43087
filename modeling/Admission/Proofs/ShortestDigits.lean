import Admission.Binary64.Shortest
import Mathlib.Algebra.Order.Field.Power
import Mathlib.Algebra.Order.Field.Rat
import Mathlib.Data.Nat.Cast.Order.Field
import Mathlib.Tactic.GCongr
import Mathlib.Tactic.Linarith
import Mathlib.Tactic.NormNum
import Mathlib.Tactic.Positivity
import Mathlib.Tactic.Ring

/-!
# How many digits a number takes

The digits of the shortest decimal are found on one of twenty grids. The first of them is coarser than the number is great
(`two_zpow_le_ten_zpow`), and a point of a grid is at most one step above the number, so the last of them leaves twenty-one digits
at most (`shortest_bounds`).
-/

namespace Admission

namespace Binary64

/-! ## Powers -/

/-- A power with an integer exponent is a fraction of two powers, of which one is one. -/
theorem zpow_mul_pow_toNat (b : ℚ) (hb : b ≠ 0) (n : Int) : b ^ n * b ^ (-n).toNat = b ^ n.toNat := by
  rcases Int.le_total 0 n with h | h
  · obtain ⟨m, rfl⟩ := Int.eq_ofNat_of_zero_le h
    simp
  · obtain ⟨m, hm⟩ := Int.eq_ofNat_of_zero_le (Int.neg_nonneg.2 h)
    obtain rfl : n = -(m : Int) := by omega
    have hzero : (-(m : Int)).toNat = 0 := by omega
    rw [zpow_neg, zpow_natCast, neg_neg, Int.toNat_natCast, hzero, pow_zero]
    exact inv_mul_cancel₀ (pow_ne_zero m hb)

/-- The power of ten that is taken for a power of two is not below it, over the range of the format. -/
theorem two_pow_le_ten_pow : ∀ n : Nat, n < 1076 → Nat.pow 2 n ≤ Nat.pow 10 (n * 30103 / 100000 + 1) := by
  decide +kernel

/-- The same over the range of the numbers below one, told of the reciprocals. -/
theorem ten_pow_le_two_pow : ∀ n : Nat, n < 1076 → Nat.pow 10 ((n * 30103 + 99999) / 100000 - 1) ≤ Nat.pow 2 n := by
  decide +kernel

/-- The first grid that is tried is coarser than a number below a power of two is great. -/
theorem two_zpow_le_ten_zpow (top : Int) (hlow : -1076 < top) (hhigh : top < 1025) :
    (2 : ℚ) ^ top ≤ 10 ^ (top * 30103 / 100000 + 1) := by
  rcases Int.le_total 0 top with h | h
  · obtain ⟨n, rfl⟩ := Int.eq_ofNat_of_zero_le h
    have hpower : (n : Int) * 30103 / 100000 + 1 = (n * 30103 / 100000 + 1 : Nat) := by omega
    rw [hpower, zpow_natCast, zpow_natCast]
    exact_mod_cast two_pow_le_ten_pow n (by omega)
  · obtain ⟨n, hn⟩ := Int.eq_ofNat_of_zero_le (Int.neg_nonneg.2 h)
    obtain rfl : top = -(n : Int) := by omega
    rcases Nat.eq_zero_or_pos n with rfl | hpos
    · norm_num
    · have hpower : -(n : Int) * 30103 / 100000 + 1 = -((n * 30103 + 99999) / 100000 - 1 : Nat) := by omega
      rw [hpower, zpow_neg, zpow_neg, zpow_natCast, zpow_natCast]
      gcongr
      exact_mod_cast ten_pow_le_two_pow n (by omega)

/-- The power of ten two steps below it is not above the power of two. -/
theorem ten_zpow_le_two_zpow (top : Int) (hlow : -1076 < top) (hhigh : top < 1025) :
    (10 : ℚ) ^ (top * 30103 / 100000 - 1) ≤ 2 ^ top := by
  rcases Int.le_total 0 top with h | h
  · obtain ⟨n, rfl⟩ := Int.eq_ofNat_of_zero_le h
    have hpower : (n : Int) * 30103 / 100000 - 1 ≤ ((n * 30103 + 99999) / 100000 - 1 : Nat) := by omega
    refine (zpow_le_zpow_right₀ (by norm_num) hpower).trans ?_
    rw [zpow_natCast, zpow_natCast]
    exact_mod_cast ten_pow_le_two_pow n (by omega)
  · obtain ⟨n, hn⟩ := Int.eq_ofNat_of_zero_le (Int.neg_nonneg.2 h)
    obtain rfl : top = -(n : Int) := by omega
    have hpower : -(n : Int) * 30103 / 100000 - 1 ≤ -(n * 30103 / 100000 + 1 : Nat) := by omega
    refine (zpow_le_zpow_right₀ (by norm_num) hpower).trans ?_
    rw [zpow_neg, zpow_neg, zpow_natCast, zpow_natCast]
    gcongr
    exact_mod_cast two_pow_le_ten_pow n (by omega)

/-! ## The digits of the shortest decimal -/

/-- A point of a grid is one of the two next to the number. -/
theorem gridPoint?_eq_some {i : Interval} {scale power : Int} {digits : Nat} (h : gridPoint? i scale power = some digits) :
    digits ≤ i.mid * (10 ^ (-power).toNat * 2 ^ scale.toNat) / (10 ^ power.toNat * 2 ^ (-scale).toNat) + 1 := by
  simp only [gridPoint?, Nat.pow_eq] at h
  generalize i.mid * (10 ^ (-power).toNat * 2 ^ scale.toNat) / (10 ^ power.toNat * 2 ^ (-scale).toNat) = below at h ⊢
  split at h
  · cases h
  · cases h
    omega
  · cases h
    exact Nat.le_refl _
  · split at h
    · cases h
      omega
    · split at h
      · cases h
        exact Nat.le_refl _
      · split at h <;> cases h <;> omega

/-- A point of a grid is at most one step above the number. -/
theorem gridPoint?_le {i : Interval} {scale power : Int} {digits : Nat} (h : gridPoint? i scale power = some digits) :
    (digits : ℚ) ≤ i.mid * 2 ^ scale * 10 ^ (-power) + 1 := by
  have hten := zpow_mul_pow_toNat 10 (by norm_num) (-power)
  have htwo := zpow_mul_pow_toNat 2 (by norm_num) scale
  rw [neg_neg] at hten
  have hcast : (digits : ℚ) ≤ i.mid * (10 ^ (-power).toNat * 2 ^ scale.toNat) / (10 ^ power.toNat * 2 ^ (-scale).toNat) + 1 := by
    refine (Nat.cast_le.2 (gridPoint?_eq_some h)).trans ?_
    rw [Nat.cast_add, Nat.cast_one]
    gcongr
    refine Nat.cast_div_le.trans (le_of_eq ?_)
    push_cast
    rfl
  refine hcast.trans (le_of_eq ?_)
  rw [← hten, ← htwo]
  have hpos : (10 : ℚ) ^ power.toNat * 2 ^ (-scale).toNat ≠ 0 := by positivity
  rw [add_left_inj, div_eq_iff hpos]
  ring

/-- The first grid with a point is one of those that are tried, and its digits are bounded by the finest of them. -/
theorem coarsest_bounds (i : Interval) (scale : Int) (tries : Nat) (power : Int) :
    power - tries ≤ (coarsest i scale tries power).power ∧ (coarsest i scale tries power).power ≤ power ∧
      ((coarsest i scale tries power).digits : ℚ) ≤ i.mid * 2 ^ scale * 10 ^ (tries - power) + 1 := by
  induction tries generalizing power with
  | zero =>
    refine ⟨by simp [coarsest], by simp [coarsest], ?_⟩
    simp only [coarsest, Nat.cast_zero]
    positivity
  | succ tries ih =>
    unfold coarsest
    split
    · next digits hpoint =>
      refine ⟨by simp only; omega, le_refl _, ?_⟩
      refine (gridPoint?_le hpoint).trans ?_
      have hpower : (10 : ℚ) ^ (-power) ≤ 10 ^ (((tries + 1 : Nat) : Int) - power) := by
        exact zpow_le_zpow_right₀ (by norm_num) (by omega)
      gcongr
    · obtain ⟨hlow, hhigh, hdigits⟩ := ih (power - 1)
      refine ⟨by push_cast; omega, by omega, ?_⟩
      have hsame : ((tries + 1 : Nat) : Int) - power = (tries : Int) - (power - 1) := by
        push_cast
        ring
      rw [hsame]
      exact hdigits

theorem significand_lt (biased : Fin 2047) (fraction : Fin fractionCount) : significand biased fraction < 2 ^ 53 := by
  have hcount : fractionCount = 2 ^ 52 := by norm_num [fractionCount]
  have hfraction := fraction.isLt
  unfold significand
  split <;> omega

theorem scale_mem (biased : Fin 2047) : -1074 ≤ scale biased ∧ scale biased ≤ 971 := by
  have hbiased := biased.isLt
  unfold scale
  split <;> omega

/-- A positive number is below the power of two behind it. -/
theorem mid_mul_le (biased : Fin 2047) (fraction : Fin fractionCount) :
    ((interval biased fraction).mid : ℚ) * 2 ^ (scale biased - 2) ≤
      2 ^ (scale biased + (Nat.log2 (significand biased fraction) : Int) + 1) := by
  have hlog : ((significand biased fraction : Nat) : ℚ) ≤ 2 ^ (Nat.log2 (significand biased fraction) + 1) := by
    exact_mod_cast (Nat.lt_log2_self (n := significand biased fraction)).le
  have hscale : (0 : ℚ) < 2 ^ scale biased := by positivity
  calc ((interval biased fraction).mid : ℚ) * 2 ^ (scale biased - 2)
      = significand biased fraction * 2 ^ scale biased := by
        simp only [interval, Nat.cast_mul, zpow_sub₀ (two_ne_zero : (2 : ℚ) ≠ 0)]
        norm_num
        ring
    _ ≤ 2 ^ (Nat.log2 (significand biased fraction) + 1) * 2 ^ scale biased := by gcongr
    _ = 2 ^ (scale biased + (Nat.log2 (significand biased fraction) : Int) + 1) := by
        rw [← zpow_natCast, ← zpow_add₀ (two_ne_zero : (2 : ℚ) ≠ 0)]
        congr 1
        push_cast
        ring

/-- Twenty grids, the first of which is coarser than the number is great, leave twenty-one digits at most. -/
theorem coarsest_digits_le {i : Interval} {scale top : Int} (hmid : (i.mid : ℚ) * 2 ^ scale ≤ 2 ^ top) (hlow : -1076 < top)
    (hhigh : top < 1025) : (coarsest i scale 20 (top * 30103 / 100000 + 1)).digits ≤ 10 ^ 20 + 1 := by
  obtain ⟨-, -, hdigits⟩ := coarsest_bounds i scale 20 (top * 30103 / 100000 + 1)
  have hten := hmid.trans (two_zpow_le_ten_zpow top hlow hhigh)
  generalize top * 30103 / 100000 + 1 = power at hdigits hten ⊢
  have hbound : ((coarsest i scale 20 power).digits : ℚ) ≤ 10 ^ 20 + 1 := by
    refine hdigits.trans ?_
    gcongr
    calc (i.mid : ℚ) * 2 ^ scale * 10 ^ (((20 : Nat) : Int) - power)
        ≤ 10 ^ power * 10 ^ (((20 : Nat) : Int) - power) := by gcongr
      _ = 10 ^ 20 := by
          rw [← zpow_add₀ (by norm_num), ← zpow_natCast]
          congr 1
          ring
  exact_mod_cast hbound

/-- The shortest decimal of a number has twenty-one digits at most, and its power has three. -/
theorem shortest_bounds (biased : Fin 2047) (fraction : Fin fractionCount) :
    (shortest biased fraction).digits < 10 ^ 21 ∧ -400 ≤ (shortest biased fraction).power ∧
      (shortest biased fraction).power ≤ 400 := by
  have hlog : Nat.log2 (significand biased fraction) ≤ 52 := by
    rcases Nat.eq_zero_or_pos (significand biased fraction) with h | h
    · simp [h]
    · have := (Nat.log2_lt h.ne').2 (significand_lt biased fraction)
      omega
  obtain ⟨hscalelow, hscalehigh⟩ := scale_mem biased
  have hdigits := coarsest_digits_le (mid_mul_le biased fraction) (by omega) (by omega)
  dsimp only [shortest]
  obtain ⟨hlow, hhigh, -⟩ := coarsest_bounds (interval biased fraction) (scale biased - 2) 20
    ((scale biased + (Nat.log2 (significand biased fraction) : Int) + 1) * 30103 / 100000 + 1)
  exact ⟨by omega, by omega, by omega⟩

end Binary64

end Admission
