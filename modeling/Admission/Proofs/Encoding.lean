import Admission.Proofs.WellFormed
import Admission.Text.Utf8

/-!
# Octets of a text

A text without surrogates has octets in UTF-8, and they are read back as the text (`exists_octets`).
-/

namespace Admission

namespace Utf8

/-! ## One character -/

section Scanning

variable {a b c d : UInt8} (rest : List UInt8)

/-- An octet of its own is a character. -/
theorem scan_one (ha : a.toNat < 0x80) : scan (a :: rest) = some (.ofNat a.toNat) :: scan rest := by
  rw [scan.eq_def]
  exact if_pos (UInt8.lt_iff_toNat_lt.2 ha)

/-- Two octets that are well formed are a character. -/
theorem scan_two (hlow : 0xC2 ≤ a.toNat) (hhigh : a.toNat ≤ 0xDF) (hb : isTail b = true) :
    scan (a :: b :: rest) = some (.ofNat (a.toNat % 0x20 * 0x40 + tailBits b)) :: scan rest := by
  have hone : ¬ a < 0x80 := by
    rw [UInt8.lt_iff_toNat_lt]
    simp
    omega
  have htwo : 0xC2 ≤ a ∧ a ≤ 0xDF := ⟨UInt8.le_iff_toNat_le.2 hlow, UInt8.le_iff_toNat_le.2 hhigh⟩
  rw [scan.eq_def]
  simp only [if_neg hone, if_pos htwo, hb, if_true]

/-- Three octets that are well formed are a character. -/
theorem scan_three (hlow : 0xE0 ≤ a.toNat) (hhigh : a.toNat ≤ 0xEF) (hb : mayFollowInThree a b = true) (hc : isTail c = true) :
    scan (a :: b :: c :: rest) = some (.ofNat (a.toNat % 0x10 * 0x1000 + tailBits b * 0x40 + tailBits c)) :: scan rest := by
  have hone : ¬ a < 0x80 := by
    rw [UInt8.lt_iff_toNat_lt]
    simp
    omega
  have htwo : ¬ (0xC2 ≤ a ∧ a ≤ 0xDF) := by
    rw [UInt8.le_iff_toNat_le, UInt8.le_iff_toNat_le]
    simp
    omega
  have hthree : 0xE0 ≤ a ∧ a ≤ 0xEF := ⟨UInt8.le_iff_toNat_le.2 hlow, UInt8.le_iff_toNat_le.2 hhigh⟩
  rw [scan.eq_def]
  simp only [if_neg hone, if_neg htwo, if_pos hthree, hb, hc, if_true]

/-- Four octets that are well formed are a character. -/
theorem scan_four (hlow : 0xF0 ≤ a.toNat) (hhigh : a.toNat ≤ 0xF4) (hb : mayFollowInFour a b = true) (hc : isTail c = true)
    (hd : isTail d = true) :
    scan (a :: b :: c :: d :: rest) =
      some (.ofNat (a.toNat % 0x08 * 0x40000 + tailBits b * 0x1000 + tailBits c * 0x40 + tailBits d)) :: scan rest := by
  have hone : ¬ a < 0x80 := by
    rw [UInt8.lt_iff_toNat_lt]
    simp
    omega
  have htwo : ¬ (0xC2 ≤ a ∧ a ≤ 0xDF) := by
    rw [UInt8.le_iff_toNat_le, UInt8.le_iff_toNat_le]
    simp
    omega
  have hthree : ¬ (0xE0 ≤ a ∧ a ≤ 0xEF) := by
    rw [UInt8.le_iff_toNat_le, UInt8.le_iff_toNat_le]
    simp
    omega
  have hfour : 0xF0 ≤ a ∧ a ≤ 0xF4 := ⟨UInt8.le_iff_toNat_le.2 hlow, UInt8.le_iff_toNat_le.2 hhigh⟩
  rw [scan.eq_def]
  simp only [if_neg hone, if_neg htwo, if_neg hthree, if_pos hfour, hb, hc, hd, if_true]

end Scanning

/-- The second octets of three, told of their values. -/
theorem mayFollowInThree_iff (first second : UInt8) :
    mayFollowInThree first second = true ↔
      (if first.toNat = 0xE0 then 0xA0 else 0x80) ≤ second.toNat ∧ second.toNat ≤ if first.toNat = 0xED then 0x9F else 0xBF := by
  simp [mayFollowInThree, UInt8.le_iff_toNat_le, apply_ite UInt8.toNat, ← UInt8.toNat_inj]

theorem mayFollowInFour_iff (first second : UInt8) :
    mayFollowInFour first second = true ↔
      (if first.toNat = 0xF0 then 0x90 else 0x80) ≤ second.toNat ∧ second.toNat ≤ if first.toNat = 0xF4 then 0x8F else 0xBF := by
  simp [mayFollowInFour, UInt8.le_iff_toNat_le, apply_ite UInt8.toNat, ← UInt8.toNat_inj]

/-- The octet that continues a character with the last six bits of a number. -/
def tail (n : Nat) : UInt8 := .ofNat (0x80 + n % 0x40)

theorem toNat_tail (n : Nat) : (tail n).toNat = 0x80 + n % 0x40 :=
  UInt8.toNat_ofNat_of_lt' (by simp [UInt8.size]; omega)

theorem isTail_tail (n : Nat) : isTail (tail n) = true := by
  rw [isTail, decide_eq_true_eq, UInt8.le_iff_toNat_le, UInt8.le_iff_toNat_le, toNat_tail]
  simp
  omega

/-- A continuing octet carries the last six bits. -/
theorem tailBits_tail (n : Nat) : tailBits (tail n) = n % 0x40 := by
  rw [tailBits, toNat_tail]
  omega

theorem ofNat_val (c : CodePoint) : CodePoint.ofNat c.val = c := dif_pos c.val_lt

/-- The octets of a code point are read back as it, whatever follows them. -/
theorem scan_encodeCodePoint? {c : CodePoint} {octets : List UInt8} (h : encodeCodePoint? c = some octets) (rest : List UInt8) :
    scan (octets ++ rest) = some c :: scan rest := by
  have hlt := c.val_lt
  have hfirst : ∀ n, n < 0x100 → (UInt8.ofNat n).toNat = n := fun n hn => UInt8.toNat_ofNat_of_lt' hn
  change (if c.val < 0x80 then some [UInt8.ofNat c.val]
    else if c.val < 0x800 then some [UInt8.ofNat (0xC0 + c.val / 0x40), tail c.val]
    else if c.isSurrogate then none
    else if c.val < 0x10000 then some [UInt8.ofNat (0xE0 + c.val / 0x1000), tail (c.val / 0x40), tail c.val]
    else some [UInt8.ofNat (0xF0 + c.val / 0x40000), tail (c.val / 0x1000), tail (c.val / 0x40), tail c.val]) = some octets at h
  split_ifs at h with hone htwo hsurrogate hthree
  · cases h
    have ha := hfirst c.val (by omega)
    rw [List.singleton_append, scan_one _ (by omega), ha, ofNat_val]
  · cases h
    have ha := hfirst (0xC0 + c.val / 0x40) (by omega)
    have hvalue : (0xC0 + c.val / 0x40) % 0x20 * 0x40 + c.val % 0x40 = c.val := by omega
    rw [List.cons_append, List.singleton_append, scan_two _ (by omega) (by omega) (isTail_tail _), ha, tailBits_tail, hvalue,
      ofNat_val]
  · cases h
    have ha := hfirst (0xE0 + c.val / 0x1000) (by omega)
    have hvalue : (0xE0 + c.val / 0x1000) % 0x10 * 0x1000 + c.val / 0x40 % 0x40 * 0x40 + c.val % 0x40 = c.val := by omega
    have hplain : ¬ (0xD800 ≤ c.val ∧ c.val < 0xE000) := fun h => hsurrogate (decide_eq_true h)
    have hsecond : mayFollowInThree (.ofNat (0xE0 + c.val / 0x1000)) (tail (c.val / 0x40)) = true := by
      rw [mayFollowInThree_iff, ha, toNat_tail]
      split_ifs <;> omega
    rw [List.cons_append, List.cons_append, List.singleton_append,
      scan_three _ (by omega) (by omega) hsecond (isTail_tail _), ha, tailBits_tail, tailBits_tail, hvalue, ofNat_val]
  · cases h
    have ha := hfirst (0xF0 + c.val / 0x40000) (by omega)
    have hvalue : (0xF0 + c.val / 0x40000) % 0x08 * 0x40000 + c.val / 0x1000 % 0x40 * 0x1000 + c.val / 0x40 % 0x40 * 0x40 +
        c.val % 0x40 = c.val := by omega
    have hsecond : mayFollowInFour (.ofNat (0xF0 + c.val / 0x40000)) (tail (c.val / 0x1000)) = true := by
      rw [mayFollowInFour_iff, ha, toNat_tail]
      split_ifs <;> omega
    rw [List.cons_append, List.cons_append, List.cons_append, List.singleton_append,
      scan_four _ (by omega) (by omega) hsecond (isTail_tail _) (isTail_tail _), ha, tailBits_tail, tailBits_tail, tailBits_tail,
      hvalue, ofNat_val]

/-- Every code point but a surrogate has octets. -/
theorem exists_encodeCodePoint? {c : CodePoint} (h : c.isSurrogate = false) : ∃ octets, encodeCodePoint? c = some octets := by
  unfold encodeCodePoint?
  dsimp only
  split_ifs with _ _ hsurrogate
  · exact ⟨_, rfl⟩
  · exact ⟨_, rfl⟩
  · rw [h] at hsurrogate
    cases hsurrogate
  · exact ⟨_, rfl⟩
  · exact ⟨_, rfl⟩

/-! ## Texts -/

theorem mapM_id_map_some (s : Text) : (s.map some).mapM id = some s := by
  induction s with
  | nil => rfl
  | cons c s ih =>
    rw [List.map_cons, List.mapM_cons, ih]
    rfl

/-- A text without surrogates has octets, and they are read back as the text. -/
theorem exists_octets {s : Text} (h : s.isWellFormed = true) : ∃ octets, encode? s = some octets ∧ decode? octets = some s := by
  suffices hparts : ∃ parts, s.mapM encodeCodePoint? = some parts ∧ scan parts.flatten = s.map some by
    obtain ⟨parts, hparts, hscan⟩ := hparts
    refine ⟨parts.flatten, by rw [encode?, hparts, Option.map_some], ?_⟩
    rw [decode?, hscan]
    exact mapM_id_map_some s
  rw [Text.isWellFormed_iff] at h
  induction s with
  | nil => exact ⟨[], rfl, by simp [scan]⟩
  | cons c s ih =>
    obtain ⟨hc, hs⟩ := List.forall_mem_cons.1 h
    obtain ⟨octets, hoctets⟩ := exists_encodeCodePoint? hc
    obtain ⟨parts, hparts, hscan⟩ := ih hs
    refine ⟨octets :: parts, ?_, ?_⟩
    · rw [List.mapM_cons, hoctets, hparts]
      rfl
    · rw [List.flatten_cons, scan_encodeCodePoint? hoctets, hscan, List.map_cons]

end Utf8

end Admission
