import Admission.Proofs.ShortestDigits

/-!
# Texts of numbers

The text of a number is never blank, and that of a binary number is never long, whatever the number: it has a sign, twenty-one
digits, a point and three digits of an exponent at most.
-/

namespace Admission

namespace Text

theorem isBlank_of_mem {s : Text} {c : CodePoint} (hc : c ∈ s) (h : c.isBlank = false) : s.isBlank = false := by
  rw [isBlank, List.all_eq_false]
  exact ⟨c, hc, by simp [h]⟩

/-- No visible ASCII character is blank. -/
theorem isBlank_of_visible {c : CodePoint} (hlow : 0x20 < c.val) (hhigh : c.val < 0x7F) : c.isBlank = false := by
  have hranges : ∀ r ∈ CodePoint.blanks, r.2 < 0x21 ∨ 0x7E < r.1 := by decide
  rw [CodePoint.isBlank, Ranges.has, List.any_eq_false]
  intro r hr hboth
  have hr := hranges r hr
  simp only [Bool.and_eq_true, decide_eq_true_eq] at hboth
  omega

theorem isBlank_ofChar_of_isDigit {c : Char} (h : c.isDigit = true) : (CodePoint.ofChar c).isBlank = false := by
  obtain ⟨hlow, hhigh⟩ := Char.isDigit_iff_toNat.1 h
  have hzero : '0'.toNat = 48 := rfl
  have hnine : '9'.toNat = 57 := rfl
  have hval : (CodePoint.ofChar c).val = c.toNat := rfl
  exact isBlank_of_visible (by omega) (by omega)

/-- An integer is not blank. -/
theorem isBlank_ofInt (n : Int) : (ofInt n).isBlank = false := by
  obtain ⟨c, hc⟩ := List.exists_mem_of_ne_nil _ (Nat.toDigits_ne_nil (n := n.natAbs) (b := 10))
  have hdigit : c.isDigit = true := Nat.isDigit_of_mem_toDigits (by decide) (by decide) hc
  have hmem : CodePoint.ofChar c ∈ ofNat n.natAbs := List.mem_map_of_mem hc
  refine isBlank_of_mem ?_ (isBlank_ofChar_of_isDigit hdigit)
  unfold ofInt
  split
  · exact List.mem_cons_of_mem _ hmem
  · exact hmem

/-- A number below a power of ten has no more digits than the power has zeros. -/
theorem length_ofNat_le {n k : Nat} (hk : 0 < k) (h : n < 10 ^ k) : (ofNat n).length ≤ k := by
  rw [ofNat, List.length_map]
  exact (Nat.length_toDigits_le_iff (by decide) hk).2 h

/-- Decimal digits denote a number below the power of ten that has as many zeros. -/
theorem ofDigits_lt {digits : List Nat} (h : ∀ d ∈ digits, d < 10) : ofDigits digits < 10 ^ digits.length := by
  suffices hfold : ∀ k, digits.foldl (fun n d => 10 * n + d) k < (k + 1) * 10 ^ digits.length by
    simpa [ofDigits] using hfold 0
  induction digits with
  | nil => simp
  | cons d digits ih =>
    intro k
    obtain ⟨hd, hdigits⟩ := List.forall_mem_cons.1 h
    rw [List.foldl_cons, List.length_cons, pow_succ', ← Nat.mul_assoc]
    exact (ih hdigits _).trans_le (Nat.mul_le_mul_right _ (by omega))

/-- An integer that so many decimal digits denote is short. -/
theorem isShort_signed {digits : List Nat} (negative : Bool) (h : ∀ d ∈ digits, d < 10) (hlength : digits.length ≤ digitLimit) :
    IsShort (signed negative (ofDigits digits)) := by
  have habs : (signed negative (ofDigits digits)).natAbs = ofDigits digits := by
    cases negative <;> simp [signed]
  rw [IsShort, habs]
  exact length_ofNat_le (by decide) ((ofDigits_lt h).trans_le (Nat.pow_le_pow_right (by decide) hlength))

/-- An integer is short exactly when it is below the power of ten with as many zeros as digits are allowed. -/
theorem isShort_iff (n : Int) : IsShort n ↔ n.natAbs < 10 ^ digitLimit := by
  rw [IsShort, ofNat, List.length_map]
  exact Nat.length_toDigits_le_iff (by decide) (by decide)

theorem isShort_of_length_ofInt {n : Int} (h : (ofInt n).length ≤ digitLimit) : IsShort n := by
  unfold ofInt at h
  split at h
  · exact (Nat.le_succ _).trans h
  · exact h

/-- The least integer above zero that is not short. Nothing is gained by its digits. -/
@[irreducible]
def leastLong : Int := ((10 ^ digitLimit : Nat) : Int)

theorem leastLong_nonneg : 0 ≤ leastLong := by
  rw [leastLong]
  exact Int.natCast_nonneg _

theorem not_isShort_leastLong : ¬ IsShort leastLong := by
  rw [isShort_iff, leastLong, Int.natAbs_natCast]
  exact Nat.lt_irrefl _

end Text

namespace Binary64

/-- A decimal with twenty-one digits and a power of three is laid out in thirty code points. -/
theorem Decimal.length_text_le {d : Decimal} (hdigits : d.digits < 10 ^ 21) (hlow : -400 ≤ d.power) (hhigh : d.power ≤ 400) :
    (d.text layout).length ≤ 30 := by
  have hlength := Text.length_ofNat_le (by decide) hdigits
  have hpos : 0 < (Text.ofNat d.digits).length := by
    rw [Text.ofNat, List.length_map]
    exact Nat.length_toDigits_pos
  simp only [Decimal.text, layout]
  generalize Text.ofNat d.digits = digits at hlength hpos ⊢
  have hexponent : (Text.ofNat ((digits.length : Int) + d.power - 1).natAbs).length ≤ 3 :=
    Text.length_ofNat_le (by decide) (by omega)
  split
  · split
    · simp [Text.ofString]
      omega
    · split
      · simp [Text.ofString]
        omega
      · simp [Text.ofString]
        omega
  · have hfraction : (if digits.length ≤ 1 then [] else '.' :: digits.drop 1 : Text).length ≤ 21 := by
      split
      · simp
      · simp
        omega
    have hletters : (Text.ofString (if (digits.length : Int) + d.power - 1 < 0 then "e-" else "e+")).length = 2 := by
      split <;> rfl
    simp only [List.length_append, hletters, Text.padded, List.length_replicate, List.length_take]
    omega

/-- A decimal that is laid out has a point or an exponent, so it is not blank. -/
theorem Decimal.isBlank_text (d : Decimal) : (d.text layout).isBlank = false := by
  have hpoint : (CodePoint.ofChar '.').isBlank = false := by decide
  have hletter : (CodePoint.ofChar 'e').isBlank = false := by decide
  simp only [Decimal.text, layout]
  split
  · refine Text.isBlank_of_mem (c := CodePoint.ofChar '.') ?_ hpoint
    split
    · simp [Text.ofString]
    · split <;> simp [Text.ofString]
  · refine Text.isBlank_of_mem (c := CodePoint.ofChar 'e') ?_ hletter
    split <;> split <;> simp [Text.ofString]

theorem isBlank_signText_append {s : Text} (negative : Bool) (h : s.isBlank = false) :
    (signText negative ++ s).isBlank = false := by
  rw [Text.isBlank, List.all_append, Bool.and_eq_false_iff]
  exact Or.inr h

/-- A sign is one code point at most. -/
theorem length_signText_le (negative : Bool) : (signText negative).length ≤ 1 := by
  cases negative <;> decide

/-- The text of a binary number is not blank. -/
theorem isBlank_text (x : Binary64) : x.text.isBlank = false := by
  cases x with
  | nan => decide
  | infinite negative => exact isBlank_signText_append negative (by decide)
  | finite negative biased fraction =>
    refine isBlank_signText_append negative ?_
    split
    · exact Decimal.isBlank_text _
    · exact Decimal.isBlank_text _

/-- The text of a binary number has no more than thirty-one code points. -/
theorem length_text_le (x : Binary64) : x.text.length ≤ 31 := by
  cases x with
  | nan => decide
  | infinite negative => cases negative <;> decide
  | finite negative biased fraction =>
    obtain ⟨hdigits, hlow, hhigh⟩ := shortest_bounds biased fraction
    have hsign := length_signText_le negative
    have hzero : (Decimal.text layout ⟨0, 0⟩).length ≤ 30 := Decimal.length_text_le (by decide) (by decide) (by decide)
    have hshortest := Decimal.length_text_le hdigits hlow hhigh
    rw [text, List.length_append]
    split
    · omega
    · omega

end Binary64

end Admission
