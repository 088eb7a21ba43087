import Admission.Proofs.Json.Numbers
import Admission.Proofs.Rounding

/-!
# Binary numbers are written as numbers of JSON

The text of a finite binary number is a number as the grammar has it, with a fraction or an exponent, and the binary number is the one
nearest to it (`denotes_text`). So a binary number that is written in a response and read again is the same number.
-/

namespace Admission

/-! ## Decimal digits -/

theorem CodePoint.asciiDigit?_ofChar {c : Char} (h : c.isDigit = true) : (ofChar c).asciiDigit? = some (c.toNat - '0'.toNat) := by
  obtain ⟨hlow, hhigh⟩ := Char.isDigit_iff_toNat.1 h
  exact if_pos ⟨hlow, hhigh⟩

namespace Text

theorem isAsciiDigit_map_ofChar {cs : List Char} (h : ∀ c ∈ cs, c.isDigit = true) :
    ∀ c ∈ cs.map CodePoint.ofChar, c.isAsciiDigit = true := by
  intro d hd
  obtain ⟨c, hc, rfl⟩ := List.mem_map.1 hd
  simp [CodePoint.isAsciiDigit, CodePoint.asciiDigit?_ofChar (h c hc)]

theorem isDigit_toDigits (n : Nat) : ∀ c ∈ Nat.toDigits 10 n, c.isDigit = true := by
  intro c hc
  exact Nat.isDigit_of_mem_toDigits (by decide) (by decide) hc

theorem isDigits_ofNat (n : Nat) : Json.IsDigits (ofNat n) :=
  ⟨by simp [ofNat], isAsciiDigit_map_ofChar (isDigit_toDigits n)⟩

theorem isAsciiDigit_replicate (k : Nat) : ∀ c ∈ List.replicate k (CodePoint.ofChar '0'), c.isAsciiDigit = true := by
  intro c hc
  rw [(List.mem_replicate.1 hc).2]
  decide

/-- A number above zero does not begin with a zero. -/
theorem head?_ofNat {n : Nat} (h : 0 < n) : (ofNat n).head? ≠ some (CodePoint.ofChar '0') := by
  induction n using Nat.strongRecOn with
  | ind n ih =>
    rcases Nat.lt_or_ge n 10 with hlt | hle
    · have hdigits : ∀ m < 10, 0 < m → (([m.digitChar].map CodePoint.ofChar : Text)).head? ≠ some (CodePoint.ofChar '0') := by
        decide
      rw [ofNat, Nat.toDigits_of_lt_base hlt]
      exact hdigits n hlt h
    · have hquotient := ih (n / 10) (by omega) (by omega)
      have hne : (Nat.toDigits 10 (n / 10)).map CodePoint.ofChar ≠ [] := by simp
      rw [ofNat, Nat.toDigits_of_base_le (by decide) hle, List.map_append, List.head?_append_of_ne_nil _ hne]
      exact hquotient

end Text

namespace Json

/-- Digits of characters have the value that the characters spell. -/
theorem Numeral.digitsValue_map_ofChar {cs : List Char} (h : ∀ c ∈ cs, c.isDigit = true) :
    digitsValue (cs.map CodePoint.ofChar) = Nat.ofDigitChars 10 cs 0 := by
  suffices hfold : ∀ k, ((cs.map CodePoint.ofChar).filterMap CodePoint.asciiDigit?).foldl (fun n d => 10 * n + d) k =
      Nat.ofDigitChars 10 cs k from hfold 0
  induction cs with
  | nil => simp
  | cons c cs ih =>
    intro k
    obtain ⟨hc, hcs⟩ := List.forall_mem_cons.1 h
    rw [List.map_cons, List.filterMap_cons_some (CodePoint.asciiDigit?_ofChar hc), List.foldl_cons, ih hcs, Nat.ofDigitChars_cons]

/-- The digits of a number, with zeros in front and behind, have the value of the number times a power of ten. -/
theorem Numeral.digitsValue_zeros (before n after : Nat) :
    digitsValue (List.replicate before (CodePoint.ofChar '0') ++ Text.ofNat n ++ List.replicate after (CodePoint.ofChar '0')) =
      n * 10 ^ after := by
  have hchars : List.replicate before (CodePoint.ofChar '0') ++ Text.ofNat n ++ List.replicate after (CodePoint.ofChar '0') =
      (List.replicate before '0' ++ Nat.toDigits 10 n ++ List.replicate after '0').map CodePoint.ofChar := by
    simp [Text.ofNat]
  have hdigits : ∀ c ∈ List.replicate before '0' ++ Nat.toDigits 10 n ++ List.replicate after '0', c.isDigit = true := by
    have hzero : '0'.isDigit = true := by decide
    intro c hc
    simp only [List.mem_append, List.mem_replicate] at hc
    rcases hc with (⟨-, rfl⟩ | hc) | ⟨-, rfl⟩
    · exact hzero
    · exact Text.isDigit_toDigits n c hc
    · exact hzero
  rw [hchars, digitsValue_map_ofChar hdigits, Nat.ofDigitChars_append, Nat.ofDigitChars_append, Nat.ofDigitChars_replicate_zero,
    Nat.ofDigitChars_replicate_zero, Nat.mul_zero, Nat.ofDigitChars_ten_toDigits, Nat.mul_comm]

theorem Numeral.digitsValue_ofNat (n : Nat) : digitsValue (Text.ofNat n) = n := by
  simpa using digitsValue_zeros 0 n 0

end Json

/-! ## Decimals that are laid out -/

namespace Binary64

/-- The parts of a decimal that is laid out. -/
def Decimal.numeral (negative : Bool) (d : Decimal) : Json.Numeral :=
  let digits := Text.ofNat d.digits
  let zeros (n : Int) : Text := List.replicate n.toNat (CodePoint.ofChar '0')
  let point : Int := digits.length + d.power
  let exponent := point - 1
  if layout.least ≤ exponent ∧ exponent ≤ layout.most then
    if 0 ≤ d.power then ⟨negative, digits ++ zeros d.power, ".0", []⟩
    else if 0 < point then ⟨negative, digits.take point.toNat, CodePoint.ofChar '.' :: digits.drop point.toNat, []⟩
    else ⟨negative, "0", CodePoint.ofChar '.' :: (zeros (-point) ++ digits), []⟩
  else
    ⟨negative, digits.take 1, if digits.length ≤ 1 then [] else CodePoint.ofChar '.' :: digits.drop 1,
      CodePoint.ofChar 'e' :: ((if exponent < 0 then "-" else "+") ++ Text.padded layout.exponentDigits exponent.natAbs)⟩

/-- A number is written as its sign and its parts. -/
theorem token_eq_signText (n : Json.Numeral) : n.token = signText n.negative ++ (n.whole ++ (n.fraction ++ n.exponent)) := by
  have hsign : Text.ofString (if n.negative then "-" else "") = signText n.negative := by
    cases n.negative <;> rfl
  rw [Json.Numeral.token, hsign, List.append_assoc, List.append_assoc]

/-- A decimal is laid out as the number of its parts. -/
theorem Decimal.token_numeral (negative : Bool) (d : Decimal) :
    (d.numeral negative).token = signText negative ++ d.text layout := by
  rw [token_eq_signText]
  simp only [Decimal.numeral, Decimal.text]
  split
  · split
    · simp
    · split <;> simp [Text.ofString]
  · split <;> split <;> simp [Text.ofString]

/-- A decimal that is laid out has a point or an exponent. -/
theorem Decimal.not_isInteger_numeral (negative : Bool) (d : Decimal) : ¬ (d.numeral negative).IsInteger := by
  rw [Json.Numeral.IsInteger]
  simp only [Decimal.numeral]
  split
  · split
    · simp [Text.ofString]
    · split <;> simp
  · simp

/-- Digits of a number above zero that are cut short are the whole part of a number. -/
theorem isWhole_take {n k : Nat} (hn : 0 < n) (hk : 0 < k) : Json.IsWhole ((Text.ofNat n).take k) := by
  obtain ⟨hne, hdigits⟩ := Text.isDigits_ofNat n
  refine .inr ⟨⟨?_, fun c hc => hdigits c (List.mem_of_mem_take hc)⟩, ?_⟩
  · simp [List.take_eq_nil_iff, hne, hk.ne']
  · rw [List.head?_take, if_neg hk.ne']
    exact Text.head?_ofNat hn

/-- A decimal above zero is laid out as the grammar has it. -/
theorem Decimal.isWritten_numeral (negative : Bool) {d : Decimal} (hd : 0 < d.digits) : (d.numeral negative).IsWritten := by
  obtain ⟨hne, hdigits⟩ := Text.isDigits_ofNat d.digits
  have hdrop : ∀ k, k < (Text.ofNat d.digits).length → Json.IsDigits ((Text.ofNat d.digits).drop k) := by
    intro k hk
    exact ⟨by simpa using hk, fun c hc => hdigits c (List.mem_of_mem_drop hc)⟩
  simp only [Decimal.numeral]
  split
  · split
    · refine ⟨.inr ⟨⟨by simp [hne], ?_⟩, ?_⟩, .inr ⟨"0", rfl, by decide, by decide⟩, .inl rfl⟩
      · exact List.forall_mem_append.2 ⟨hdigits, Text.isAsciiDigit_replicate _⟩
      · rw [List.head?_append_of_ne_nil _ hne]
        exact Text.head?_ofNat hd
    · split
      · exact ⟨isWhole_take hd (by omega), .inr ⟨_, rfl, hdrop _ (by omega)⟩, .inl rfl⟩
      · refine ⟨.inl rfl, .inr ⟨_, rfl, by simp [hne], ?_⟩, .inl rfl⟩
        exact List.forall_mem_append.2 ⟨Text.isAsciiDigit_replicate _, hdigits⟩
  · refine ⟨isWhole_take hd Nat.one_pos, ?_, .inr ⟨_, _, _, rfl, .inl rfl, ?_, ?_⟩⟩
    · dsimp only
      split
      · exact .inl rfl
      · exact .inr ⟨_, rfl, hdrop 1 (by omega)⟩
    · split
      · exact .inr (.inr rfl)
      · exact .inr (.inl rfl)
    · obtain ⟨hexponent, hall⟩ := Text.isDigits_ofNat ((Text.ofNat d.digits).length + d.power - 1).natAbs
      refine ⟨by simp [Text.padded, hexponent], ?_⟩
      exact List.forall_mem_append.2 ⟨Text.isAsciiDigit_replicate _, hall⟩

/-- The power of an exponent that is written with its sign. -/
theorem power_exponent (negative : Bool) (whole fraction : Text) (width : Nat) (n : Int) :
    Json.Numeral.power ⟨negative, whole, fraction, CodePoint.ofChar 'e' :: ((if n < 0 then "-" else "+") ++ Text.padded width n.natAbs)⟩ =
      n := by
  have hdigits : Json.Numeral.digitsValue (Text.padded width n.natAbs) = n.natAbs := by
    simpa [Text.padded] using Json.Numeral.digitsValue_zeros (width - (Text.ofNat n.natAbs).length) n.natAbs 0
  rw [Json.Numeral.power]
  split_ifs with h
  · have hsplit : Text.splitSign (("-" : Text) ++ Text.padded width n.natAbs) = (true, Text.padded width n.natAbs) := rfl
    simp only [List.drop_succ_cons, List.drop_zero, hsplit, hdigits, signed, if_true]
    omega
  · have hsplit : Text.splitSign (("+" : Text) ++ Text.padded width n.natAbs) = (false, Text.padded width n.natAbs) := rfl
    simp only [List.drop_succ_cons, List.drop_zero, hsplit, hdigits, signed, Bool.false_eq_true, if_false]
    omega

/-- The digits of a decimal that is laid out, scaled by its exponent less the length of its fraction, have the value of the
decimal. -/
theorem Decimal.exists_nearest_numeral (negative : Bool) (d : Decimal) : ∃ digits power,
    (d.numeral negative).nearest = ofDecimal negative digits power ∧ (digits : ℚ) * 10 ^ power = d.digits * 10 ^ d.power := by
  have hnone : ∀ whole fraction : Text, Json.Numeral.power ⟨negative, whole, fraction, []⟩ = 0 := fun _ _ => rfl
  simp only [Decimal.numeral]
  split
  · split
    · next hpower =>
      -- A zero is written behind the point, so there is one more digit and the power is one less.
      have hdigits : (Text.ofNat d.digits ++ List.replicate d.power.toNat (CodePoint.ofChar '0') : Text) ++ (Text.ofString ".0").drop 1 =
          List.replicate 0 (CodePoint.ofChar '0') ++ Text.ofNat d.digits ++
            List.replicate (d.power.toNat + 1) (CodePoint.ofChar '0') := by
        simp [Text.ofString, List.replicate_succ']
      refine ⟨d.digits * 10 ^ (d.power.toNat + 1), -1, ?_, ?_⟩
      · rw [Json.Numeral.nearest, hnone, hdigits, Json.Numeral.digitsValue_zeros]
        rfl
      · obtain ⟨k, hk⟩ := Int.eq_ofNat_of_zero_le hpower
        rw [hk, Int.toNat_natCast, zpow_natCast, pow_succ]
        push_cast
        norm_num
        ring
    · split
      · next hpower hpoint =>
        refine ⟨d.digits, d.power, ?_, rfl⟩
        have hlength : ((Text.ofNat d.digits).drop ((Text.ofNat d.digits).length + d.power).toNat).length = (-d.power).toNat := by
          rw [List.length_drop]
          omega
        rw [Json.Numeral.nearest, hnone]
        simp only [List.drop_succ_cons, List.drop_zero, List.take_append_drop, hlength, Json.Numeral.digitsValue_ofNat]
        congr 1
        omega
      · next hpower hpoint =>
        refine ⟨d.digits, d.power, ?_, rfl⟩
        have hdigits : Text.ofString "0" ++ (List.replicate (-((Text.ofNat d.digits).length + d.power)).toNat (CodePoint.ofChar '0') ++
            Text.ofNat d.digits) =
            List.replicate ((-((Text.ofNat d.digits).length + d.power)).toNat + 1) (CodePoint.ofChar '0') ++
              Text.ofNat d.digits ++ List.replicate 0 (CodePoint.ofChar '0') := by
          simp [Text.ofString, List.replicate_succ]
        rw [Json.Numeral.nearest, hnone]
        simp only [List.drop_succ_cons, List.drop_zero, hdigits, Json.Numeral.digitsValue_zeros, List.length_append,
          List.length_replicate]
        congr 1
        · simp
        · omega
  · refine ⟨d.digits, d.power, ?_, rfl⟩
    have hpositive : 0 < (Text.ofNat d.digits).length := List.length_pos_of_ne_nil (Text.isDigits_ofNat d.digits).1
    have hrest : ((if (Text.ofNat d.digits).length ≤ 1 then []
        else CodePoint.ofChar '.' :: (Text.ofNat d.digits).drop 1 : Text)).drop 1 = (Text.ofNat d.digits).drop 1 := by
      split
      · next hone => simp [List.drop_eq_nil_of_le hone]
      · rfl
    rw [Json.Numeral.nearest, power_exponent]
    simp only [hrest, List.take_append_drop, List.length_drop, Json.Numeral.digitsValue_ofNat]
    congr 1
    omega

/-- The parts of the shortest decimal of a positive number are those of a number that is nearest to it. -/
theorem nearest_numeral_shortest (negative : Bool) {biased : Fin 2047} {fraction : Fin fractionCount}
    (hpos : 0 < significand biased fraction) :
    ((shortest biased fraction).numeral negative).nearest = .finite negative biased fraction := by
  obtain ⟨digits, power, hnearest, hvalue⟩ := (shortest biased fraction).exists_nearest_numeral negative
  rw [hnearest]
  refine ofDecimal_of_holds hpos ?_
  rw [hvalue]
  exact holds_shortest hpos

/-- A zero has no significand, whatever its sign. -/
theorem eq_zero_of_significand {biased : Fin 2047} {fraction : Fin fractionCount} (h : significand biased fraction = 0) :
    biased.val = 0 ∧ fraction.val = 0 := by
  have hcount : 0 < fractionCount := by decide
  unfold significand at h
  split at h
  · next hbiased => exact ⟨hbiased, h⟩
  · omega

/-- The parts of a zero are those of a number that is nearest to the zero of its sign. -/
theorem nearest_numeral_zero (negative : Bool) {biased : Fin 2047} {fraction : Fin fractionCount}
    (h : significand biased fraction = 0) : (Decimal.numeral negative ⟨0, 0⟩).nearest = .finite negative biased fraction := by
  obtain ⟨hbiased, hfraction⟩ := eq_zero_of_significand h
  have hzero : (Decimal.numeral negative ⟨0, 0⟩).nearest = atPlace negative 0 := rfl
  have hplace := atPlace_eq_finite negative biased fraction
  rw [h, scale, if_pos hbiased] at hplace
  rw [hzero, ← hplace]
  rfl

/-- The text of a finite binary number is a number with a fraction or an exponent, and the one nearest to it is the binary number. -/
theorem exists_numeral {x : Binary64} (h : x.isFinite = true) :
    ∃ n : Json.Numeral, n.IsWritten ∧ ¬ n.IsInteger ∧ n.nearest = x ∧ n.token = x.text := by
  cases x with
  | nan => cases h
  | infinite negative => cases h
  | finite negative biased fraction =>
    rw [text]
    split
    · next hzero =>
      refine ⟨Decimal.numeral negative ⟨0, 0⟩, ?_, Decimal.not_isInteger_numeral _ _, ?_, Decimal.token_numeral _ _⟩
      · exact ⟨.inl rfl, .inr ⟨"0", rfl, by decide, by decide⟩, .inl rfl⟩
      · exact nearest_numeral_zero negative hzero
    · next hsignificand =>
      have hpos := Nat.pos_of_ne_zero hsignificand
      refine ⟨(shortest biased fraction).numeral negative, ?_, Decimal.not_isInteger_numeral _ _, ?_, Decimal.token_numeral _ _⟩
      · exact Decimal.isWritten_numeral negative (digits_pos_of_holds hpos (holds_shortest hpos))
      · exact nearest_numeral_shortest negative hpos

end Binary64

end Admission
