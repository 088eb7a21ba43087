import Admission.Proofs.ShortestDigits

/-!
# Decimals are read as the nearest number

A decimal is read as the binary number nearest to it, a tie as the one whose last bit is zero. So every decimal that lies in the
interval of a number, with its ends where the interval is closed, is read as that number (`ofDecimal_of_holds`).
-/

namespace Admission

namespace Binary64

/-! ## Fractions and powers of two -/

/-- A value lies in an interval whose quarters are a power of two. -/
def Interval.Holds (i : Interval) (scale : Int) (q : ℚ) : Prop :=
  if i.closed then (i.low : ℚ) * 2 ^ scale ≤ q ∧ q ≤ i.high * 2 ^ scale
  else (i.low : ℚ) * 2 ^ scale < q ∧ q < i.high * 2 ^ scale

/-- A value is as many powers of two as it has when it is scaled by the power. -/
theorem eq_mul_zpow (q : ℚ) (scale : Int) : q = q * 2 ^ (-scale) * 2 ^ scale := by
  rw [mul_assoc, ← zpow_add₀ two_ne_zero, neg_add_cancel, zpow_zero, mul_one]

theorem scaled_div (num den : Nat) (power : Int) :
    ((scaled num den power).1 : ℚ) / (scaled num den power).2 = num / den * 2 ^ power := by
  have htwo := zpow_mul_pow_toNat 2 two_ne_zero power
  have hpos : (2 : ℚ) ^ (-power).toNat ≠ 0 := by positivity
  simp only [scaled, Nat.pow_eq, Nat.cast_mul, Nat.cast_pow, Nat.cast_ofNat]
  rw [mul_div_mul_comm, ← htwo, mul_div_assoc, div_self hpos, mul_one]

theorem scaled_snd_pos {den : Nat} (hden : 0 < den) (num : Nat) (power : Int) : 0 < (scaled num den power).2 := by
  simp only [scaled, Nat.pow_eq]
  positivity

/-- A positive number lies between the power of two of its logarithm and the next. -/
theorem log2_bounds {n : Nat} (hn : 0 < n) : (2 : ℚ) ^ (Nat.log2 n : Int) ≤ n ∧ (n : ℚ) < 2 ^ ((Nat.log2 n : Int) + 1) := by
  constructor
  · rw [zpow_natCast]
    exact_mod_cast Nat.log2_self_le hn.ne'
  · have h : n < 2 ^ (Nat.log2 n + 1) := Nat.lt_log2_self
    exact_mod_cast h

/-- The difference of the logarithms of its parts is the logarithm of a fraction, or one too great. -/
theorem log2_sub_bounds {num den : Nat} (hnum : 0 < num) (hden : 0 < den) :
    (2 : ℚ) ^ ((Nat.log2 num : Int) - Nat.log2 den - 1) ≤ num / den ∧
      (num : ℚ) / den < 2 ^ ((Nat.log2 num : Int) - Nat.log2 den + 1) := by
  have hdenpos : (0 : ℚ) < den := by exact_mod_cast hden
  obtain ⟨hnumlow, hnumhigh⟩ := log2_bounds hnum
  obtain ⟨hdenlow, hdenhigh⟩ := log2_bounds hden
  constructor
  · rw [le_div_iff₀ hdenpos]
    calc (2 : ℚ) ^ ((Nat.log2 num : Int) - Nat.log2 den - 1) * den
        ≤ 2 ^ ((Nat.log2 num : Int) - Nat.log2 den - 1) * 2 ^ ((Nat.log2 den : Int) + 1) := by gcongr
      _ = 2 ^ (Nat.log2 num : Int) := by
          rw [← zpow_add₀ two_ne_zero]
          congr 1
          ring
      _ ≤ num := hnumlow
  · rw [div_lt_iff₀ hdenpos]
    calc (num : ℚ) < 2 ^ ((Nat.log2 num : Int) + 1) := hnumhigh
      _ = 2 ^ ((Nat.log2 num : Int) - Nat.log2 den + 1) * 2 ^ (Nat.log2 den : Int) := by
          rw [← zpow_add₀ two_ne_zero]
          congr 1
          ring
      _ ≤ 2 ^ ((Nat.log2 num : Int) - Nat.log2 den + 1) * den := by gcongr

/-- A fraction that is scaled down by a power of two is no less than one exactly when it reaches the power. -/
theorem scaled_neg_le_iff {num den : Nat} (hden : 0 < den) (power : Int) :
    (scaled num den (-power)).2 ≤ (scaled num den (-power)).1 ↔ (2 : ℚ) ^ power ≤ num / den := by
  have hpos : (0 : ℚ) < (scaled num den (-power)).2 := Nat.cast_pos.2 (scaled_snd_pos hden num _)
  have hscaled := scaled_div num den (-power)
  rw [zpow_neg, ← div_eq_mul_inv] at hscaled
  rw [← Nat.cast_le (α := ℚ), ← one_le_div hpos, hscaled, one_le_div (by positivity)]

/-- The logarithm of a fraction is the exponent of the power of two that it reaches. -/
theorem floorLog2_spec {num den : Nat} (hnum : 0 < num) (hden : 0 < den) :
    (2 : ℚ) ^ floorLog2 num den ≤ num / den ∧ (num : ℚ) / den < 2 ^ (floorLog2 num den + 1) := by
  obtain ⟨hguesslow, hguesshigh⟩ := log2_sub_bounds hnum hden
  simp only [floorLog2]
  split
  · next h => exact ⟨(scaled_neg_le_iff hden _).1 h, hguesshigh⟩
  · next h =>
    refine ⟨hguesslow, ?_⟩
    rw [sub_add_cancel]
    exact not_le.1 fun hle => h ((scaled_neg_le_iff hden _).2 hle)

/-- A positive fraction between two neighbouring powers of two has the exponent of the lower as its logarithm. -/
theorem floorLog2_eq {num den : Nat} {e : Int} (hnum : 0 < num) (hden : 0 < den) (hlow : (2 : ℚ) ^ e ≤ num / den)
    (hhigh : (num : ℚ) / den < 2 ^ (e + 1)) : floorLog2 num den = e := by
  obtain ⟨hfloor, hceil⟩ := floorLog2_spec hnum hden
  have hbelow : e < floorLog2 num den + 1 := (zpow_lt_zpow_iff_right₀ one_lt_two).1 (hlow.trans_lt hceil)
  have habove : floorLog2 num den < e + 1 := (zpow_lt_zpow_iff_right₀ one_lt_two).1 (hfloor.trans_lt hhigh)
  omega

/-! ## Rounding -/

/-- A whole number is the nearest to a fraction when it is at most a half away from it, and a half only if it is even. -/
theorem roundHalfEven_eq {n d k : Nat} (hlow : 2 * (k * d) ≤ 2 * n + d) (hhigh : 2 * n ≤ 2 * (k * d) + d)
    (htie : k % 2 = 0 ∨ 2 * (k * d) < 2 * n + d ∧ 2 * n < 2 * (k * d) + d) (hd : 0 < d) : roundHalfEven n d = k := by
  have hdivision := Nat.div_add_mod n d
  have hrest := Nat.mod_lt n hd
  simp only [roundHalfEven]
  generalize n / d = q at hdivision ⊢
  generalize n % d = r at hdivision hrest ⊢
  have hk : k = q ∨ k = q + 1 := by
    have hle : q ≤ k := by
      by_contra hlt
      have : (k + 1) * d ≤ q * d := Nat.mul_le_mul_right d (by omega)
      rw [Nat.mul_comm d q] at hdivision
      rw [Nat.add_mul] at this
      omega
    have hge : k ≤ q + 1 := by
      by_contra hlt
      have : (q + 2) * d ≤ k * d := Nat.mul_le_mul_right d (by omega)
      rw [Nat.mul_comm d q] at hdivision
      rw [Nat.add_mul] at this
      omega
    omega
  rcases hk with rfl | rfl
  · rw [Nat.mul_comm d k] at hdivision
    split
    · rfl
    · split
      · omega
      · split
        · rfl
        · omega
  · rw [Nat.mul_comm d q] at hdivision
    rw [Nat.add_mul] at hlow hhigh htie
    split
    · omega
    · split
      · rfl
      · split
        · omega
        · rfl

/-- The same told of the value of the fraction. -/
theorem roundHalfEven_of_abs {n d k : Nat} {q : ℚ} (hd : 0 < d) (hq : (n : ℚ) / d = q) (hlow : (k : ℚ) - 1 / 2 ≤ q)
    (hhigh : q ≤ k + 1 / 2) (htie : k % 2 = 0 ∨ (k : ℚ) - 1 / 2 < q ∧ q < k + 1 / 2) : roundHalfEven n d = k := by
  have hdpos : (0 : ℚ) < d := by exact_mod_cast hd
  have hn : (n : ℚ) = q * d := (div_eq_iff hdpos.ne').1 hq
  refine roundHalfEven_eq ?_ ?_ ?_ hd
  · have h : (2 * (k * d) : ℚ) ≤ 2 * n + d := by
      rw [hn]
      nlinarith
    exact_mod_cast h
  · have h : (2 * n : ℚ) ≤ 2 * (k * d) + d := by
      rw [hn]
      nlinarith
    exact_mod_cast h
  · refine htie.imp_right fun ⟨hlt, hgt⟩ => ⟨?_, ?_⟩
    · have h : (2 * (k * d) : ℚ) < 2 * n + d := by
        rw [hn]
        nlinarith
      exact_mod_cast h
    · have h : (2 * n : ℚ) < 2 * (k * d) + d := by
        rw [hn]
        nlinarith
      exact_mod_cast h

/-! ## Places -/

/-- The significand and the scale of a number in the ascending order of the numbers that are not negative. -/
theorem atPlace_eq_finite (negative : Bool) (biased : Fin 2047) (fraction : Fin fractionCount) :
    atPlace negative ((scale biased + 1074).toNat * fractionCount + significand biased fraction) =
      .finite negative biased fraction := by
  have hfraction := fraction.isLt
  have hbiased := biased.isLt
  have hplace : (scale biased + 1074).toNat * fractionCount + significand biased fraction =
      fractionCount * biased.val + fraction.val := by
    unfold scale significand
    split
    · next h => simp [h]
    · next h =>
      have hpower : ((biased.val : Int) - 1075 + 1074).toNat = biased.val - 1 := by omega
      rw [hpower]
      obtain ⟨k, hk⟩ := Nat.exists_eq_succ_of_ne_zero h
      have hsum : ∀ count : Nat, k * count + (count + fraction.val) = count * (k + 1) + fraction.val := by
        intro count
        ring
      rw [hk, Nat.succ_sub_one]
      exact hsum fractionCount
  have hcount : 0 < fractionCount := by decide
  have hdiv : (fractionCount * biased.val + fraction.val) / fractionCount = biased.val := by
    rw [Nat.mul_add_div hcount, Nat.div_eq_of_lt hfraction, Nat.add_zero]
  have hmod : (fractionCount * biased.val + fraction.val) % fractionCount = fraction.val := by
    rw [Nat.mul_add_mod, Nat.mod_eq_of_lt hfraction]
  simp only [atPlace, hplace, hdiv, hmod, hbiased, dif_pos]

/-- A positive number has a significand of fifty-three bits, or it stands at the lower end of the range. -/
theorem scale_eq_or_le_significand (biased : Fin 2047) (fraction : Fin fractionCount) :
    scale biased = -1074 ∨ 2 ^ 52 ≤ significand biased fraction := by
  unfold scale significand
  split
  · exact .inl rfl
  · exact .inr (Nat.le_add_right _ _)

/-! ## The number whose interval holds a value -/

/-- A value in the interval of a positive number is at most half a place away from it, and less when its significand is odd. -/
theorem holds_interval {biased : Fin 2047} {fraction : Fin fractionCount} {q : ℚ} (hpos : 0 < significand biased fraction)
    (h : (interval biased fraction).Holds (scale biased - 2) q) :
    ((significand biased fraction : ℚ) - 1 / 2 ≤ q * 2 ^ (-scale biased) ∧
        q * 2 ^ (-scale biased) ≤ significand biased fraction + 1 / 2) ∧
      (significand biased fraction % 2 = 0 ∨
        (significand biased fraction : ℚ) - 1 / 2 < q * 2 ^ (-scale biased) ∧
          q * 2 ^ (-scale biased) < significand biased fraction + 1 / 2) ∧
      (fraction.val = 0 ∧ 1 < biased.val → (significand biased fraction : ℚ) - 1 / 4 ≤ q * 2 ^ (-scale biased)) := by
  have hunit : (0 : ℚ) < 2 ^ scale biased := by positivity
  have hquarter : (2 : ℚ) ^ (scale biased - 2) = 2 ^ scale biased / 4 := by
    rw [zpow_sub₀ two_ne_zero]
    norm_num
  have hlow : ((interval biased fraction).low : ℚ) =
      4 * significand biased fraction - if fraction.val = 0 ∧ 1 < biased.val then 1 else 2 := by
    simp only [interval]
    split
    · rw [Nat.cast_sub (by omega)]
      norm_num
    · rw [Nat.cast_sub (by omega)]
      norm_num
  have hhigh : ((interval biased fraction).high : ℚ) = 4 * significand biased fraction + 2 := by
    simp [interval]
  have hlow' : 4 * (significand biased fraction : ℚ) - 2 ≤ (interval biased fraction).low := by
    rw [hlow]
    split <;> linarith
  rw [eq_mul_zpow q (scale biased)] at h
  simp only [Interval.Holds, hquarter, hhigh] at h
  generalize q * 2 ^ (-scale biased) = t at h ⊢
  generalize (2 : ℚ) ^ scale biased = u at h hunit
  have hweak : (interval biased fraction).low * (u / 4) ≤ t * u ∧ t * u ≤ (4 * significand biased fraction + 2) * (u / 4) := by
    split at h
    · exact h
    · exact ⟨h.1.le, h.2.le⟩
  have hstrict : significand biased fraction % 2 = 0 ∨
      (interval biased fraction).low * (u / 4) < t * u ∧ t * u < (4 * significand biased fraction + 2) * (u / 4) := by
    split at h
    · next hclosed => exact .inl (of_decide_eq_true hclosed)
    · exact .inr h
  have hscaled : ∀ x : ℚ, x * (u / 4) = x / 4 * u := by
    intro x
    ring
  simp only [hscaled, mul_le_mul_iff_of_pos_right hunit, mul_lt_mul_iff_of_pos_right hunit] at hweak hstrict
  refine ⟨⟨by linarith, by linarith⟩, hstrict.imp_right ?_, ?_⟩
  · rintro ⟨hlt, hgt⟩
    exact ⟨by linarith, by linarith⟩
  · intro hfirst
    rw [hlow, if_pos hfirst] at hweak
    linarith

/-- A fraction is rounded at the scale that its logarithm asks for. -/
theorem ofRatio_eq {negative : Bool} {num den k : Nat} {power : Int} (hden : 0 < den)
    (hpower : max (-1074) (floorLog2 num den - 52) = power) (hlow : (k : ℚ) - 1 / 2 ≤ num / den * 2 ^ (-power))
    (hhigh : (num : ℚ) / den * 2 ^ (-power) ≤ k + 1 / 2)
    (htie : k % 2 = 0 ∨ (k : ℚ) - 1 / 2 < num / den * 2 ^ (-power) ∧ (num : ℚ) / den * 2 ^ (-power) < k + 1 / 2) :
    ofRatio negative num den = atPlace negative ((power + 1074).toNat * fractionCount + k) := by
  have hround := roundHalfEven_of_abs (scaled_snd_pos hden num (-power)) (scaled_div num den (-power)) hlow hhigh htie
  simp only [ofRatio, hpower, hround]

/-- A number that is scaled more than the least stands at its lower end exactly when its fraction is zero. -/
theorem fraction_eq_zero_of_significand {biased : Fin 2047} {fraction : Fin fractionCount} (hscale : scale biased ≠ -1074)
    (h : significand biased fraction = 2 ^ 52) : fraction.val = 0 ∧ 1 < biased.val := by
  have hcount : fractionCount = 2 ^ 52 := by norm_num [fractionCount]
  unfold scale at hscale
  unfold significand at h
  split at hscale
  · exact absurd rfl hscale
  · next hbiased =>
    rw [if_neg hbiased] at h
    omega

/-- A fraction reaches a power of two as it does when both are scaled. -/
theorem zpow_le_iff_scaled (q : ℚ) (e scale : Int) : (2 : ℚ) ^ e ≤ q ↔ (2 : ℚ) ^ (e - scale) ≤ q * 2 ^ (-scale) := by
  rw [sub_eq_add_neg, zpow_add₀ two_ne_zero, mul_le_mul_iff_of_pos_right (by positivity)]

/-- A fraction less than a quarter of a place below the lower end of a binade is rounded up to it, although it stands in the binade below,
where the places are half as wide. -/
theorem ofRatio_below_binade {negative : Bool} {biased : Fin 2047} {fraction : Fin fractionCount} {num den : Nat} (hnum : 0 < num)
    (hden : 0 < den) (hscale : scale biased ≠ -1074) (hend : significand biased fraction = 2 ^ 52)
    (hlow : (2 : ℚ) ^ (52 : Int) - 1 / 4 ≤ num / den * 2 ^ (-scale biased))
    (hhigh : (num : ℚ) / den * 2 ^ (-scale biased) < 2 ^ (52 : Int)) :
    ofRatio negative num den = .finite negative biased fraction := by
  have hleast := (scale_mem biased).1
  have hmiddle : (2 : ℚ) ^ (52 : Int) = 4503599627370496 := by norm_num
  have hbottom : (2 : ℚ) ^ (51 : Int) = 2251799813685248 := by norm_num
  rw [hmiddle] at hlow hhigh
  have hreach : (2 : ℚ) ^ (scale biased + 51) ≤ num / den := by
    rw [zpow_le_iff_scaled _ _ (scale biased), add_sub_cancel_left, hbottom]
    linarith
  have hless : (num : ℚ) / den < 2 ^ (scale biased + 51 + 1) := by
    refine not_le.1 fun hle => ?_
    rw [add_assoc, zpow_le_iff_scaled _ _ (scale biased), add_sub_cancel_left, show (51 + 1 : Int) = 52 from rfl, hmiddle] at hle
    linarith
  have hlog : floorLog2 num den = scale biased + 51 := floorLog2_eq hnum hden hreach hless
  have htwice : (num : ℚ) / den * 2 ^ (-(scale biased - 1)) = 2 * (num / den * 2 ^ (-scale biased)) := by
    have hexponent : -(scale biased - 1) = -scale biased + 1 := by ring
    rw [hexponent, zpow_add_one₀ two_ne_zero]
    ring
  have hplace : (scale biased - 1 + 1074).toNat * fractionCount + 2 ^ 53 =
      (scale biased + 1074).toNat * fractionCount + significand biased fraction := by
    have hcount : fractionCount = 2 ^ 52 := by norm_num [fractionCount]
    rw [hend, hcount]
    omega
  have hlow' : ((2 ^ 53 : Nat) : ℚ) - 1 / 2 ≤ num / den * 2 ^ (-(scale biased - 1)) := by
    rw [htwice]
    push_cast
    linarith
  have hhigh' : (num : ℚ) / den * 2 ^ (-(scale biased - 1)) ≤ (2 ^ 53 : Nat) + 1 / 2 := by
    rw [htwice]
    push_cast
    linarith
  rw [ofRatio_eq hden (by omega) hlow' hhigh' (.inl (by norm_num)), hplace, atPlace_eq_finite]

/-- A positive fraction in the interval of a number is rounded to the number. -/
theorem ofRatio_of_holds {negative : Bool} {biased : Fin 2047} {fraction : Fin fractionCount} {num den : Nat} (hnum : 0 < num)
    (hden : 0 < den) (hpos : 0 < significand biased fraction)
    (h : (interval biased fraction).Holds (scale biased - 2) (num / den)) :
    ofRatio negative num den = .finite negative biased fraction := by
  obtain ⟨⟨hlow, hhigh⟩, htie, hfirst⟩ := holds_interval hpos h
  obtain ⟨hfloor, hceil⟩ := floorLog2_spec hnum hden
  have hleast := (scale_mem biased).1
  have htop : (2 : ℚ) ^ (53 : Int) = 9007199254740992 := by norm_num
  have hmiddle : (2 : ℚ) ^ (52 : Int) = 4503599627370496 := by norm_num
  have hlt : (significand biased fraction : ℚ) + 1 ≤ 9007199254740992 := by exact_mod_cast significand_lt biased fraction
  have hbinade : (num : ℚ) / den < 2 ^ (scale biased + 53) := by
    refine not_le.1 fun hle => ?_
    rw [zpow_le_iff_scaled _ _ (scale biased), add_sub_cancel_left, htop] at hle
    linarith
  by_cases hreach : (2 : ℚ) ^ (scale biased + 52) ≤ num / den
  · have hlog : floorLog2 num den = scale biased + 52 := floorLog2_eq hnum hden hreach (by rwa [add_assoc])
    rw [ofRatio_eq hden (by omega) hlow hhigh htie, atPlace_eq_finite]
  · have hbelow : floorLog2 num den < scale biased + 52 :=
      (zpow_lt_zpow_iff_right₀ one_lt_two).1 (hfloor.trans_lt (not_le.1 hreach))
    by_cases hscale : scale biased = -1074
    · rw [ofRatio_eq hden (by omega) hlow hhigh htie, atPlace_eq_finite]
    · -- Only a fraction below the lower end of the binade is left, and the interval reaches a quarter of a place below it.
      have hnormal : 2 ^ 52 ≤ significand biased fraction := (scale_eq_or_le_significand biased fraction).resolve_left hscale
      rw [zpow_le_iff_scaled _ _ (scale biased), add_sub_cancel_left, not_le] at hreach
      have hend : significand biased fraction = 2 ^ 52 := by
        rw [hmiddle] at hreach
        have hupper : (significand biased fraction : ℚ) < 4503599627370496 + 1 := by linarith
        have hupper : significand biased fraction < 4503599627370496 + 1 := by exact_mod_cast hupper
        omega
      have hedge := hfirst (fraction_eq_zero_of_significand hscale hend)
      rw [hend] at hedge
      exact ofRatio_below_binade hnum hden hscale hend (by exact_mod_cast hedge) hreach

/-! ## Decimals -/

/-- The interval of a positive number is inside of the range of the format. -/
theorem Interval.Holds.bounds {biased : Fin 2047} {fraction : Fin fractionCount} {q : ℚ} (hpos : 0 < significand biased fraction)
    (h : (interval biased fraction).Holds (scale biased - 2) q) : (2 : ℚ) ^ (-1075 : Int) ≤ q ∧ q < 2 ^ (1024 : Int) := by
  obtain ⟨⟨hlow, hhigh⟩, -, -⟩ := holds_interval hpos h
  obtain ⟨hleast, hmost⟩ := scale_mem biased
  have hone : (1 : ℚ) ≤ significand biased fraction := by exact_mod_cast hpos
  have hlt : (significand biased fraction : ℚ) + 1 ≤ 2 ^ (53 : Int) := by exact_mod_cast significand_lt biased fraction
  have hunit : (0 : ℚ) < 2 ^ scale biased := by positivity
  have hq := eq_mul_zpow q (scale biased)
  constructor
  · calc (2 : ℚ) ^ (-1075 : Int) ≤ 2 ^ (-1 + scale biased) := zpow_le_zpow_right₀ one_le_two (by omega)
      _ = 1 / 2 * 2 ^ scale biased := by
        rw [zpow_add₀ two_ne_zero]
        norm_num
      _ ≤ q * 2 ^ (-scale biased) * 2 ^ scale biased := by
        gcongr
        linarith
      _ = q := hq.symm
  · calc q = q * 2 ^ (-scale biased) * 2 ^ scale biased := hq
      _ < 2 ^ (53 : Int) * 2 ^ scale biased := by
        gcongr
        linarith
      _ = 2 ^ (53 + scale biased) := (zpow_add₀ two_ne_zero _ _).symm
      _ ≤ 2 ^ (1024 : Int) := zpow_le_zpow_right₀ one_le_two (by omega)

/-- The size of a decimal is the exponent of the power of ten behind it. -/
theorem size_bounds {digits : Nat} (hdigits : digits ≠ 0) (power : Int) :
    (10 : ℚ) ^ ((Nat.toDigits 10 digits).length + power - 1) ≤ digits * 10 ^ power ∧
      digits * (10 : ℚ) ^ power < 10 ^ ((Nat.toDigits 10 digits).length + power) := by
  have hlength : 0 < (Nat.toDigits 10 digits).length := Nat.length_toDigits_pos
  have hhigh : digits < 10 ^ (Nat.toDigits 10 digits).length :=
    (Nat.length_toDigits_le_iff (by decide) hlength).1 (Nat.le_refl _)
  have hlow : 10 ^ ((Nat.toDigits 10 digits).length - 1) ≤ digits := by
    rcases Nat.eq_zero_or_pos ((Nat.toDigits 10 digits).length - 1) with h | h
    · rw [h, pow_zero]
      omega
    · refine not_lt.1 fun hlt => ?_
      have := (Nat.length_toDigits_le_iff (by decide) h).2 hlt
      omega
  constructor
  · calc (10 : ℚ) ^ ((Nat.toDigits 10 digits).length + power - 1)
        = 10 ^ ((Nat.toDigits 10 digits).length - 1) * 10 ^ power := by
          rw [← zpow_natCast, ← zpow_add₀ (by norm_num)]
          congr 1
          omega
      _ ≤ digits * 10 ^ power := by
          gcongr
          exact_mod_cast hlow
  · calc digits * (10 : ℚ) ^ power < 10 ^ (Nat.toDigits 10 digits).length * 10 ^ power := by
          gcongr
          exact_mod_cast hhigh
      _ = 10 ^ ((Nat.toDigits 10 digits).length + power) := by
          rw [← zpow_natCast, ← zpow_add₀ (by norm_num)]

/-- A decimal in the interval of a positive number is above zero. -/
theorem digits_pos_of_holds {biased : Fin 2047} {fraction : Fin fractionCount} {digits : Nat} {power : Int}
    (hpos : 0 < significand biased fraction)
    (h : (interval biased fraction).Holds (scale biased - 2) (digits * 10 ^ power)) : 0 < digits := by
  refine Nat.pos_of_ne_zero ?_
  rintro rfl
  have hzero : (2 : ℚ) ^ (-1075 : Int) ≤ 0 := by simpa using (h.bounds hpos).1
  exact absurd hzero (not_le.2 (by positivity))

/-- A decimal in the interval of a positive number is read as the number. -/
theorem ofDecimal_of_holds {negative : Bool} {biased : Fin 2047} {fraction : Fin fractionCount} {digits : Nat} {power : Int}
    (hpos : 0 < significand biased fraction)
    (h : (interval biased fraction).Holds (scale biased - 2) (digits * 10 ^ power)) :
    ofDecimal negative digits power = .finite negative biased fraction := by
  obtain ⟨hleast, hmost⟩ := h.bounds hpos
  have hdigits : digits ≠ 0 := (digits_pos_of_holds hpos h).ne'
  obtain ⟨hlow, hhigh⟩ := size_bounds hdigits power
  -- The guards leave the decimal alone, because they lie outside of the range of the format.
  have hnotover : ¬ (310 : Int) < (Nat.toDigits 10 digits).length + power := by
    intro hover
    have hten := zpow_le_zpow_right₀ (by norm_num : (1 : ℚ) ≤ 10) (show (309 : Int) ≤ (Nat.toDigits 10 digits).length + power - 1 by omega)
    exact absurd (((two_zpow_le_ten_zpow 1024 (by norm_num) (by norm_num)).trans hten).trans hlow) (not_le.2 hmost)
  have hnotunder : ¬ (Nat.toDigits 10 digits).length + power < (-330 : Int) := by
    intro hunder
    have hten := zpow_le_zpow_right₀ (by norm_num : (1 : ℚ) ≤ 10) (show (Nat.toDigits 10 digits).length + power ≤ (-325 : Int) by omega)
    exact absurd (hhigh.trans_le (hten.trans (ten_zpow_le_two_zpow (-1075) (by norm_num) (by norm_num)))) (not_lt.2 hleast)
  have hratio : ((digits * 10 ^ power.toNat : Nat) : ℚ) / (10 ^ (-power).toNat : Nat) = digits * 10 ^ power := by
    have hten := zpow_mul_pow_toNat 10 (by norm_num) power
    rw [div_eq_iff (by positivity), Nat.cast_mul, Nat.cast_pow, Nat.cast_pow, mul_assoc, Nat.cast_ofNat, hten]
  simp only [ofDecimal, if_neg hdigits, gt_iff_lt, if_neg hnotover, if_neg hnotunder, Nat.pow_eq]
  refine ofRatio_of_holds (Nat.mul_pos (Nat.pos_of_ne_zero hdigits) (by positivity)) (by positivity) hpos ?_
  rw [hratio]
  exact h

/-! ## The shortest decimal -/

/-- A point of a grid lies in the interval, told of the values that stand for them. -/
theorem Interval.has_iff (i : Interval) (scale power : Int) (digits : Nat) :
    i.has (10 ^ (-power).toNat * 2 ^ scale.toNat) (digits * (10 ^ power.toNat * 2 ^ (-scale).toNat)) = true ↔
      i.Holds scale (digits * 10 ^ power) := by
  have hten := zpow_mul_pow_toNat 10 (by norm_num) power
  have htwo := zpow_mul_pow_toNat 2 (by norm_num) scale
  have hpos : (0 : ℚ) < 10 ^ (-power).toNat * 2 ^ (-scale).toNat := by positivity
  have hunit : ∀ k : Nat, ((k * (10 ^ (-power).toNat * 2 ^ scale.toNat) : Nat) : ℚ) =
      k * 2 ^ scale * (10 ^ (-power).toNat * 2 ^ (-scale).toNat) := by
    intro k
    push_cast
    rw [← htwo]
    ring
  have hpoint : ((digits * (10 ^ power.toNat * 2 ^ (-scale).toNat) : Nat) : ℚ) =
      digits * 10 ^ power * (10 ^ (-power).toNat * 2 ^ (-scale).toNat) := by
    push_cast
    rw [← hten]
    ring
  have hle : ∀ m n : Nat, m ≤ n ↔ (m : ℚ) ≤ n := fun m n => Nat.cast_le.symm
  have hlt : ∀ m n : Nat, m < n ↔ (m : ℚ) < n := fun m n => Nat.cast_lt.symm
  simp only [Interval.has, Interval.Holds]
  split <;> simp only [decide_eq_true_eq]
  · rw [hle, hle, hpoint, hunit, hunit, mul_le_mul_iff_of_pos_right hpos, mul_le_mul_iff_of_pos_right hpos]
  · rw [hlt, hlt, hpoint, hunit, hunit, mul_lt_mul_iff_of_pos_right hpos, mul_lt_mul_iff_of_pos_right hpos]

/-- The point that is found on a grid lies in the interval. -/
theorem holds_of_gridPoint? {i : Interval} {scale power : Int} {digits : Nat} (h : gridPoint? i scale power = some digits) :
    i.Holds scale (digits * 10 ^ power) := by
  rw [← i.has_iff scale power digits]
  simp only [gridPoint?, Nat.pow_eq] at h
  generalize i.mid * (10 ^ (-power).toNat * 2 ^ scale.toNat) / (10 ^ power.toNat * 2 ^ (-scale).toNat) = below at h
  split at h
  · cases h
  · next hbelow _ =>
    cases h
    exact hbelow
  · next _ habove =>
    cases h
    exact habove
  · next hbelow habove =>
    split at h
    · cases h
      exact hbelow
    · split at h
      · cases h
        exact habove
      · split at h <;> cases h
        · exact hbelow
        · exact habove

/-- A grid whose step is no more than a quarter of the last place has a point in the interval. -/
theorem exists_gridPoint? {i : Interval} {scale power : Int} (hlow : i.low ≤ i.mid) (hhigh : i.mid + 2 ≤ i.high)
    (h : (10 : ℚ) ^ power ≤ 2 ^ scale) : ∃ digits, gridPoint? i scale power = some digits := by
  have hunit : (0 : ℚ) < 2 ^ scale := by positivity
  have hten := zpow_mul_pow_toNat 10 (by norm_num) power
  have htwo := zpow_mul_pow_toNat 2 (by norm_num) scale
  have hcoarse : 10 ^ power.toNat * 2 ^ (-scale).toNat ≤ 10 ^ (-power).toNat * 2 ^ scale.toNat := by
    have hcast : (10 : ℚ) ^ power.toNat * 2 ^ (-scale).toNat ≤ 10 ^ (-power).toNat * 2 ^ scale.toNat := by
      rw [← hten, ← htwo]
      calc (10 : ℚ) ^ power * 10 ^ (-power).toNat * 2 ^ (-scale).toNat
          ≤ 2 ^ scale * 10 ^ (-power).toNat * 2 ^ (-scale).toNat := by gcongr
        _ = 10 ^ (-power).toNat * (2 ^ scale * 2 ^ (-scale).toNat) := by ring
    exact_mod_cast hcast
  have hstep : 0 < 10 ^ power.toNat * 2 ^ (-scale).toNat := by positivity
  simp only [gridPoint?, Nat.pow_eq]
  generalize 10 ^ (-power).toNat * 2 ^ scale.toNat = unit at hcoarse ⊢
  generalize 10 ^ power.toNat * 2 ^ (-scale).toNat = step at hcoarse hstep ⊢
  -- The next point above the middle is less than two quarters away from it.
  have habove : i.has unit ((i.mid * unit / step + 1) * step) = true := by
    have hover : i.mid * unit < (i.mid * unit / step + 1) * step := by
      rw [Nat.mul_comm _ step]
      exact Nat.lt_mul_div_succ _ hstep
    have hunder : (i.mid * unit / step + 1) * step ≤ i.mid * unit + step := by
      rw [Nat.add_mul, Nat.one_mul]
      exact Nat.add_le_add_right (Nat.div_mul_le_self _ _) _
    have hfloor : i.low * unit ≤ i.mid * unit := Nat.mul_le_mul_right unit hlow
    have hceil : (i.mid + 2) * unit ≤ i.high * unit := Nat.mul_le_mul_right unit hhigh
    rw [Nat.add_mul] at hceil
    simp only [Interval.has]
    split <;> simp only [decide_eq_true_eq] <;> omega
  rw [habove]
  split
  · next h => cases h
  · next h => cases h
  · exact ⟨_, rfl⟩
  · split
    · exact ⟨_, rfl⟩
    · split
      · exact ⟨_, rfl⟩
      · split <;> exact ⟨_, rfl⟩

/-- When the last grid that is tried has a point in the interval, the decimal that is found lies in it. -/
theorem holds_coarsest {i : Interval} {scale : Int} {tries : Nat} {power : Int}
    (h : ∃ digits, gridPoint? i scale (power - tries) = some digits) :
    i.Holds scale ((coarsest i scale (tries + 1) power).digits * 10 ^ (coarsest i scale (tries + 1) power).power) := by
  induction tries generalizing power with
  | zero =>
    obtain ⟨digits, hdigits⟩ := h
    rw [Nat.cast_zero, Int.sub_zero] at hdigits
    rw [coarsest, hdigits]
    exact holds_of_gridPoint? hdigits
  | succ tries ih =>
    rw [coarsest]
    split
    · next digits hpoint => exact holds_of_gridPoint? hpoint
    · refine ih ?_
      have hpower : power - 1 - (tries : Int) = power - ((tries + 1 : Nat) : Int) := by
        push_cast
        ring
      rw [hpower]
      exact h

/-- The shortest decimal of a positive number lies in the interval of the number: the step of the last grid that is tried is no more
than a quarter of the last place. -/
theorem holds_shortest {biased : Fin 2047} {fraction : Fin fractionCount} (hpos : 0 < significand biased fraction) :
    (interval biased fraction).Holds (scale biased - 2)
      ((shortest biased fraction).digits * 10 ^ (shortest biased fraction).power) := by
  have hlog : Nat.log2 (significand biased fraction) < 53 := (Nat.log2_lt hpos.ne').2 (significand_lt biased fraction)
  obtain ⟨hleast, hmost⟩ := scale_mem biased
  refine @holds_coarsest _ _ 19 _ (exists_gridPoint? (Nat.sub_le _ _) (Nat.le_refl _) ?_)
  generalize htop : scale biased + (Nat.log2 (significand biased fraction) : Int) + 1 = top
  calc (10 : ℚ) ^ (top * 30103 / 100000 + 1 - (19 : Nat))
      = 10 ^ (top * 30103 / 100000 - 1) * 10 ^ (-17 : Int) := by
        rw [← zpow_add₀ (by norm_num)]
        congr 1
        push_cast
        ring
    _ ≤ 2 ^ top * 2 ^ (-55 : Int) := by
        gcongr
        · exact ten_zpow_le_two_zpow top (by omega) (by omega)
        · norm_num
    _ = 2 ^ (top - 55) := by rw [← zpow_add₀ two_ne_zero, sub_eq_add_neg]
    _ ≤ 2 ^ (scale biased - 2) := zpow_le_zpow_right₀ one_le_two (by omega)

end Binary64

end Admission
