import Admission.Proofs.FirstFit
import Admission.Proofs.Json.Decimals
import Admission.Proofs.Json.Strings
import Admission.Proofs.NumberText
import Admission.Proofs.SpelledInteger
import Mathlib.Tactic.IntervalCases

/-!
# How the parts of a date are spelled

The numbers that a part of a date fits, and the texts that spell them. Whatever a part takes spells a number
(`exists_of_mem_ways_month` and its siblings), and a spelled number is the first thing that the part takes, unless a digit behind it
could be taken as well (`head?_ways_month` and its siblings).
-/

namespace Admission

/-! ## Decimal digits -/

namespace CodePoint

/-- An ASCII digit has the same value among the digits of every script. -/
theorem digit?_of_asciiDigit? {c : CodePoint} {n : Nat} (h : c.asciiDigit? = some n) : c.digit? = some n := by
  rw [asciiDigit?] at h
  split at h
  · next hc =>
    rw [digit?, digitZeros, List.findSome?_cons, if_pos ⟨hc.1, by omega⟩]
    exact h
  · cases h

theorem isDigit_of_isAsciiDigit {c : CodePoint} (h : c.isAsciiDigit = true) : c.isDigit = true := by
  obtain ⟨n, hn⟩ := Option.isSome_iff_exists.1 h
  rw [isDigit, digit?_of_asciiDigit? hn, Option.isSome_some]

/-- The ASCII digit of a number is the text of the number. -/
theorem asciiDigit?_eq_some_iff (c : CodePoint) (n : Nat) : c.asciiDigit? = some n ↔ n < 10 ∧ Text.ofNat n = [c] := by
  have htext : ∀ m < 10, Text.ofNat m = [CodePoint.ofNat (0x30 + m)] := by decide
  have hval : n < 10 → (Text.ofNat n = [c] ↔ c.val = 0x30 + n) := by
    intro hn
    rw [htext n hn, List.singleton_inj, eq_ofNat_iff (by omega)]
  rw [asciiDigit?, Option.ite_none_right_eq_some, Option.some.injEq]
  constructor
  · rintro ⟨hc, hn⟩
    exact ⟨by omega, (hval (by omega)).2 (by omega)⟩
  · rintro ⟨hn, hc⟩
    have := (hval hn).1 hc
    omega

end CodePoint

/-- A text spells a number in a fixed count of digits, of whatever script. -/
structure Text.SpellsDigits (count n : Nat) (w : Text) : Prop where
  length : w.length = count
  isDigit : ∀ c ∈ w, c.isDigit = true
  value : ofDigits (w.filterMap CodePoint.digit?) = n

namespace Text

theorem isDigits_padded (count n : Nat) : Json.IsDigits (padded count n) := by
  refine ⟨by simp [padded, (isDigits_ofNat n).1], fun c hc => ?_⟩
  rcases List.mem_append.1 hc with hc | hc
  · exact isAsciiDigit_replicate _ c hc
  · exact (isDigits_ofNat n).2 c hc

/-- A number with zeros in front up to a width is spelled in that many digits. -/
theorem spellsDigits_padded {count n : Nat} (hcount : 0 < count) (h : n < 10 ^ count) : SpellsDigits count n (padded count n) := by
  have hascii := (isDigits_padded count n).2
  have hdigit : ∀ c ∈ padded count n, c.digit? = c.asciiDigit? := by
    intro c hc
    obtain ⟨d, hd⟩ := Option.isSome_iff_exists.1 (hascii c hc)
    rw [hd, CodePoint.digit?_of_asciiDigit? hd]
  refine ⟨?_, ?_, ?_⟩
  · have := length_ofNat_le hcount h
    simp only [padded, List.length_append, List.length_replicate]
    omega
  · intro c hc
    rw [CodePoint.isDigit, hdigit c hc]
    exact hascii c hc
  · rw [List.filterMap_congr hdigit]
    have hvalue := Json.Numeral.digitsValue_zeros (count - (ofNat n).length) n 0
    rwa [List.replicate_zero, List.append_nil, Nat.pow_zero, Nat.mul_one] at hvalue

/-- Two digits, one behind the other, are a number padded to two digits. -/
theorem ofNat_append_ofNat {t m : Nat} (ht : t < 10) (hm : m < 10) : ofNat t ++ ofNat m = padded 2 (10 * t + m) := by
  have htwo : ∀ t < 10, ∀ m < 10, ofNat t ++ ofNat m = padded 2 (10 * t + m) := by decide +kernel
  exact htwo t ht m hm

/-- A number of two digits needs no padding. -/
theorem ofNat_eq_padded {n : Nat} (h : 10 ≤ n) (hn : n < 100) : ofNat n = padded 2 n := by
  have htwo : ∀ m < 100, 10 ≤ m → ofNat m = padded 2 m := by decide +kernel
  exact htwo n hn h

end Text

namespace DatePattern

open Json (Begins begins_cons)

/-! ## Digits in front of a text -/

/-- No digit of a script stands in front of the text. -/
abbrev NoDigit (s : Text) : Prop := Begins (fun c => c.isDigit = false) s

/-- What an ASCII digit in a range takes is the text of its number. -/
theorem eq_append_of_digitIn? {least most n : Nat} {s rest : Text} (h : digitIn? least most s = some (n, rest)) :
    (least ≤ n ∧ n ≤ most) ∧ n < 10 ∧ s = Text.ofNat n ++ rest := by
  cases s with
  | nil => cases h
  | cons c s =>
    rw [digitIn?] at h
    split at h
    · next m hm =>
      rw [Option.ite_none_right_eq_some] at h
      obtain ⟨hrange, h⟩ := h
      cases h
      obtain ⟨hlt, htext⟩ := (CodePoint.asciiDigit?_eq_some_iff c n).1 hm
      exact ⟨hrange, hlt, by rw [htext]; rfl⟩
    · cases h

/-- A number of one digit in front of a text is taken exactly when it lies in the range. -/
theorem digitIn?_ofNat {n : Nat} (hn : n < 10) (least most : Nat) (s : Text) :
    digitIn? least most (Text.ofNat n ++ s) = if least ≤ n ∧ n ≤ most then some (n, s) else none := by
  obtain ⟨c, hc⟩ : ∃ c, Text.ofNat n = [c] := by
    have hone : ∀ m < 10, ∃ c ∈ (Text.ofNat m).head?, Text.ofNat m = [c] := by decide
    obtain ⟨c, -, hc⟩ := hone n hn
    exact ⟨c, hc⟩
  rw [hc, List.singleton_append, digitIn?, (CodePoint.asciiDigit?_eq_some_iff c n).2 ⟨hn, hc⟩]

/-- Where no digit stands in front, none is taken. -/
theorem digitIn?_of_noDigit {s : Text} (h : NoDigit s) (least most : Nat) : digitIn? least most s = none := by
  cases s with
  | nil => rfl
  | cons c s =>
    rw [digitIn?]
    split
    · next n hn =>
      have hdigit := (begins_cons _ _ _).1 h
      rw [CodePoint.isDigit, CodePoint.digit?_of_asciiDigit? hn] at hdigit
      cases hdigit
    · rfl

/-- Where no digit stands in front, none of any script is taken. -/
theorem digitOfAnyScript?_of_noDigit {s : Text} (h : NoDigit s) : digitOfAnyScript? s = none := by
  cases s with
  | nil => rfl
  | cons c s =>
    have hdigit := (begins_cons _ _ _).1 h
    rw [CodePoint.isDigit, Option.isSome_eq_false_iff, Option.isNone_iff_eq_none] at hdigit
    rw [digitOfAnyScript?, hdigit]
    rfl

/-- What two digits take is a given first one, and what the second one takes behind it. -/
theorem eq_append_of_twoDigits? {first n : Nat} {second? : Text → Option (Nat × Text)} {s rest : Text}
    (h : twoDigits? first second? s = some (n, rest)) :
    ∃ t m, s = Text.ofNat first ++ t ∧ second? t = some (m, rest) ∧ n = 10 * first + m := by
  rw [twoDigits?] at h
  split at h
  · cases h
  · next d t hd =>
    obtain ⟨hrange, -, rfl⟩ := eq_append_of_digitIn? hd
    obtain rfl : d = first := by omega
    obtain ⟨⟨m, rest'⟩, hsecond, hr⟩ := Option.map_eq_some_iff.1 h
    cases hr
    exact ⟨t, m, rfl, hsecond, rfl⟩

/-- A number of one digit in front of a text is taken as the first of two digits exactly when it is the given one. -/
theorem twoDigits?_ofNat {n : Nat} (hn : n < 10) (first : Nat) (second? : Text → Option (Nat × Text)) (s : Text) :
    twoDigits? first second? (Text.ofNat n ++ s) =
      if n = first then (second? s).map fun r => (10 * first + r.1, r.2) else none := by
  rw [twoDigits?, digitIn?_ofNat hn]
  by_cases h : n = first
  · rw [if_pos (by omega), if_pos h]
  · rw [if_neg (by omega), if_neg h]

/-- What two ASCII digits take is a number that is padded to two digits. -/
theorem eq_padded_of_twoDigits? {first least most n : Nat} {s rest : Text} (hfirst : first < 10)
    (h : twoDigits? first (digitIn? least most) s = some (n, rest)) :
    (10 * first + least ≤ n ∧ n ≤ 10 * first + most) ∧ s = Text.padded 2 n ++ rest := by
  obtain ⟨t, m, rfl, hm, rfl⟩ := eq_append_of_twoDigits? h
  obtain ⟨hrange, hlt, rfl⟩ := eq_append_of_digitIn? hm
  refine ⟨by omega, ?_⟩
  rw [← List.append_assoc, Text.ofNat_append_ofNat hfirst hlt]

/-- What an ASCII digit and one of any script take is the first and the value of the second. -/
theorem exists_digit_of_twoDigits? {first n : Nat} {s rest : Text}
    (h : twoDigits? first digitOfAnyScript? s = some (n, rest)) :
    ∃ c m, c.digit? = some m ∧ m < 10 ∧ n = 10 * first + m ∧ s = Text.ofNat first ++ [c] ++ rest := by
  obtain ⟨t, m, rfl, hm, rfl⟩ := eq_append_of_twoDigits? h
  cases t with
  | nil => cases hm
  | cons c t =>
    obtain ⟨d, hd, hr⟩ := Option.map_eq_some_iff.1 hm
    cases hr
    exact ⟨c, _, hd, CodePoint.digit?_lt hd, rfl, by rw [List.append_assoc]; rfl⟩

/-! ## Years -/

/-- What a count of digits takes spells the number. -/
theorem exists_of_digits? {count n : Nat} {s rest : Text} (h : digits? count s = some (n, rest)) :
    ∃ w, s = w ++ rest ∧ w.SpellsDigits count n := by
  rw [digits?] at h
  split at h
  · cases h
  · next hlength =>
    obtain ⟨values, hvalues, hr⟩ := Option.map_eq_some_iff.1 h
    cases hr
    have hdigit := Text.isDigit_of_mapM_digit? hvalues
    rw [Text.mapM_digit? _ hdigit, Option.some.injEq] at hvalues
    exact ⟨s.take count, (List.take_append_drop _ _).symm, by rw [List.length_take]; omega, hdigit, by rw [hvalues]⟩

/-- A number spelled in digits is taken by their count. -/
theorem digits?_append {count n : Nat} {w : Text} (h : w.SpellsDigits count n) (s : Text) :
    digits? count (w ++ s) = some (n, s) := by
  obtain ⟨rfl, hdigit, rfl⟩ := h
  rw [digits?, if_neg (by simp), List.take_left, List.drop_left, Text.mapM_digit? _ hdigit]
  rfl

/-- The ways of taking numbers give the numbers that are taken. -/
theorem exists_of_mem_numbers {ways : List (Option (Nat × Text))} {r : Option Nat} {rest : Text}
    (h : (r, rest) ∈ ways.filterMap fun way => way.map fun q => (some q.1, q.2)) : ∃ n, r = some n ∧ some (n, rest) ∈ ways := by
  obtain ⟨way, hway, hmap⟩ := List.mem_filterMap.1 h
  obtain ⟨⟨n, t⟩, rfl, hq⟩ := Option.map_eq_some_iff.1 hmap
  cases hq
  exact ⟨n, rfl, hway⟩

theorem exists_of_mem_ways_year {r : Option Nat} {s rest : Text} (h : (r, rest) ∈ partWays .year s) :
    ∃ n w, r = some n ∧ s = w ++ rest ∧ w.SpellsDigits 4 n := by
  obtain ⟨n, rfl, hway⟩ := exists_of_mem_numbers h
  obtain ⟨w, hs, hw⟩ := exists_of_digits? (List.mem_singleton.1 hway).symm
  exact ⟨n, w, rfl, hs, hw⟩

theorem head?_ways_year {n : Nat} {w : Text} (h : w.SpellsDigits 4 n) (s : Text) :
    (partWays .year (w ++ s)).head? = some (some n, s) := by
  simp only [partWays, digits?_append h]
  rfl

theorem head?_ways_shortYear {n : Nat} {w : Text} (h : w.SpellsDigits 2 n) (s : Text) :
    (partWays .shortYear (w ++ s)).head? = some (some n, s) := by
  simp only [partWays, digits?_append h]
  rfl

/-! ## Months -/

/-- A text spells the number of a month: in ASCII digits, a single one with a zero in front or without. -/
def SpellsMonth (n : Nat) (w : Text) : Prop := (1 ≤ n ∧ n ≤ 12) ∧ (w = Text.ofNat n ∨ w = Text.padded 2 n)

/-- What a month takes spells its number. -/
theorem exists_of_mem_ways_month {r : Option Nat} {s rest : Text} (h : (r, rest) ∈ partWays .month s) :
    ∃ n w, r = some n ∧ s = w ++ rest ∧ SpellsMonth n w := by
  obtain ⟨n, rfl, hway⟩ := exists_of_mem_numbers h
  simp only [List.mem_cons, List.not_mem_nil, or_false] at hway
  rcases hway with hten | hzero | hone
  · obtain ⟨hrange, hs⟩ := eq_padded_of_twoDigits? (by decide) hten.symm
    exact ⟨n, _, rfl, hs, by omega, .inr rfl⟩
  · obtain ⟨hrange, hs⟩ := eq_padded_of_twoDigits? (by decide) hzero.symm
    exact ⟨n, _, rfl, hs, by omega, .inr rfl⟩
  · obtain ⟨hrange, -, hs⟩ := eq_append_of_digitIn? hone.symm
    exact ⟨n, _, rfl, hs, by omega, .inl rfl⟩

theorem head?_ways_month_padded {n : Nat} (hn : 1 ≤ n ∧ n ≤ 12) (s : Text) :
    (partWays .month (Text.padded 2 n ++ s)).head? = some (some n, s) := by
  obtain ⟨hlow, hhigh⟩ := hn
  interval_cases n <;> rfl

/-- A month is what a month takes, unless another digit follows. -/
theorem head?_ways_month {n : Nat} {w s : Text} (h : SpellsMonth n w) (hs : NoDigit s) :
    (partWays .month (w ++ s)).head? = some (some n, s) := by
  obtain ⟨hrange, rfl | rfl⟩ := h
  · rcases Nat.lt_or_ge n 10 with hlt | hge
    · have hzero : n ≠ 0 := by omega
      have hone : 1 ≤ n ∧ n ≤ 9 := by omega
      simp [partWays, twoDigits?_ofNat hlt, digitIn?_ofNat hlt, digitIn?_of_noDigit hs, hzero, hone]
    · rw [Text.ofNat_eq_padded hge (by omega)]
      exact head?_ways_month_padded hrange s
  · exact head?_ways_month_padded hrange s

/-! ## Days -/

/-- A text spells the number of a day: in ASCII digits, a single one with a zero or a space in front or without; the units of the tenth
to the twenty-ninth may be a digit of any script. -/
def SpellsDay (n : Nat) (w : Text) : Prop :=
  (1 ≤ n ∧ n ≤ 31) ∧
    (w = Text.ofNat n ∨ w = Text.padded 2 n ∨ (n ≤ 9 ∧ w = CodePoint.ofChar ' ' :: Text.ofNat n) ∨
      ((10 ≤ n ∧ n ≤ 29) ∧ ∃ c : CodePoint, c.digit? = some (n % 10) ∧ w = Text.ofNat (n / 10) ++ [c]))

/-- The tenth to the twenty-ninth are spelled with units of any script. -/
theorem spellsDay_of_digit {t m : Nat} (ht : 1 ≤ t ∧ t ≤ 2) (hm : m < 10) {c : CodePoint} (hc : c.digit? = some m) :
    SpellsDay (10 * t + m) (Text.ofNat t ++ [c]) := by
  have htens : (10 * t + m) / 10 = t := by omega
  have hunits : (10 * t + m) % 10 = m := by omega
  exact ⟨by omega, .inr (.inr (.inr ⟨by omega, c, by rw [hunits, hc], by rw [htens]⟩))⟩

/-- What a day takes spells its number. -/
theorem exists_of_mem_ways_day {r : Option Nat} {s rest : Text} (h : (r, rest) ∈ partWays .day s) :
    ∃ n w, r = some n ∧ s = w ++ rest ∧ SpellsDay n w := by
  obtain ⟨n, rfl, hway⟩ := exists_of_mem_numbers h
  simp only [List.mem_cons, List.not_mem_nil, or_false] at hway
  -- The alternatives of a day in their order; only the tens and the twenties take units of any script.
  rcases hway with hthirty | hten | htwenty | hzero | hone | hspace
  · obtain ⟨hrange, hs⟩ := eq_padded_of_twoDigits? (by decide) hthirty.symm
    exact ⟨n, _, rfl, hs, by omega, .inr (.inl rfl)⟩
  · obtain ⟨c, m, hc, hm, rfl, hs⟩ := exists_digit_of_twoDigits? hten.symm
    exact ⟨_, _, rfl, hs, spellsDay_of_digit (by omega) hm hc⟩
  · obtain ⟨c, m, hc, hm, rfl, hs⟩ := exists_digit_of_twoDigits? htwenty.symm
    exact ⟨_, _, rfl, hs, spellsDay_of_digit (by omega) hm hc⟩
  · obtain ⟨hrange, hs⟩ := eq_padded_of_twoDigits? (by decide) hzero.symm
    exact ⟨n, _, rfl, hs, by omega, .inr (.inl rfl)⟩
  · obtain ⟨hrange, -, hs⟩ := eq_append_of_digitIn? hone.symm
    exact ⟨n, _, rfl, hs, by omega, .inl rfl⟩
  · cases s with
    | nil => cases hspace
    | cons c s =>
      obtain ⟨hc, hdigit⟩ := Option.ite_none_right_eq_some.1 hspace.symm
      obtain ⟨hrange, -, hs⟩ := eq_append_of_digitIn? hdigit
      exact ⟨n, CodePoint.ofChar ' ' :: Text.ofNat n, rfl, by rw [hc, hs]; rfl, by omega, .inr (.inr (.inl ⟨by omega, rfl⟩))⟩

theorem head?_ways_day_padded {n : Nat} (hn : 1 ≤ n ∧ n ≤ 31) (s : Text) :
    (partWays .day (Text.padded 2 n ++ s)).head? = some (some n, s) := by
  obtain ⟨hlow, hhigh⟩ := hn
  interval_cases n <;> rfl

/-- A day with units of any script is what a day takes. -/
theorem head?_ways_day_digit {t m : Nat} (ht : 1 ≤ t ∧ t ≤ 2) {c : CodePoint} (hc : c.digit? = some m) (s : Text) :
    (partWays .day (Text.ofNat t ++ [c] ++ s)).head? = some (some (10 * t + m), s) := by
  have hdigit : digitOfAnyScript? (c :: s) = some (m, s) := by rw [digitOfAnyScript?, hc]; rfl
  have hlt : t < 10 := by omega
  have hthirty : t ≠ 3 := by omega
  rw [List.append_assoc, List.singleton_append]
  rcases (show t = 1 ∨ t = 2 by omega) with rfl | rfl <;>
    simp [partWays, twoDigits?_ofNat hlt, hdigit]

/-- A day is what a day takes, unless another digit follows. -/
theorem head?_ways_day {n : Nat} {w s : Text} (h : SpellsDay n w) (hs : NoDigit s) :
    (partWays .day (w ++ s)).head? = some (some n, s) := by
  -- One digit alone is tried after every alternative of two digits: these fail only because no digit follows.
  obtain ⟨hrange, rfl | rfl | ⟨hone, rfl⟩ | ⟨htwo, c, hc, rfl⟩⟩ := h
  · rcases Nat.lt_or_ge n 10 with hlt | hge
    · have hzero : n ≠ 0 := by omega
      have hone : 1 ≤ n ∧ n ≤ 9 := by omega
      simp [partWays, twoDigits?_ofNat hlt, digitIn?_ofNat hlt, digitIn?_of_noDigit hs, digitOfAnyScript?_of_noDigit hs, hzero,
        hone]
    · rw [Text.ofNat_eq_padded hge (by omega)]
      exact head?_ways_day_padded hrange s
  · exact head?_ways_day_padded hrange s
  · obtain ⟨hlow, -⟩ := hrange
    interval_cases n <;> rfl
  · rw [head?_ways_day_digit (by omega) hc, show 10 * (n / 10) + n % 10 = n by omega]

end DatePattern

end Admission
