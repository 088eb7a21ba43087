import Admission.Text.Integer

/-!
# Integers as texts spell them

A text spells an integer when it is a sign or none and then decimal digits of any script, at least one. `Text.readSigned` reads
exactly these texts, and refuses those of them that spend more digits than one integer may have.
-/

namespace Admission

theorem CodePoint.digit?_lt {c : CodePoint} {d : Nat} (h : c.digit? = some d) : d < 10 := by
  obtain ⟨start, -, hstart⟩ := List.exists_of_findSome?_eq_some h
  rw [Option.ite_none_right_eq_some] at hstart
  cases hstart.2
  omega

/-- A decimal digit of any script is not blank: no run of digits meets a range of blanks. -/
theorem CodePoint.isBlank_of_isDigit {c : CodePoint} (h : c.isDigit = true) : c.isBlank = false := by
  have hapart : ∀ start ∈ digitZeros, ∀ r ∈ blanks, start + 10 ≤ r.1 ∨ r.2 < start := by decide
  obtain ⟨d, hd⟩ := Option.isSome_iff_exists.1 h
  obtain ⟨start, hstart, hvalue⟩ := List.exists_of_findSome?_eq_some hd
  obtain ⟨hrun, -⟩ := Option.ite_none_right_eq_some.1 hvalue
  rw [isBlank, Ranges.has, List.any_eq_false]
  intro r hr hboth
  have hr := hapart start hstart r hr
  simp only [Bool.and_eq_true, decide_eq_true_eq] at hboth
  omega

/-- Zeros in front of digits add nothing to the number that these denote. -/
theorem ofDigits_zeros_append (count : Nat) (digits : List Nat) : ofDigits (List.replicate count 0 ++ digits) = ofDigits digits := by
  induction count with
  | zero => rfl
  | succ count ih =>
    rw [List.replicate_succ, List.cons_append, ← ih, ofDigits, List.foldl_cons]
    rfl

namespace Text

/-- A text is a sign, or none, and the digits of an integer. -/
structure Spells (s sign digits : Text) : Prop where
  split : s = sign ++ digits
  sign_mem : sign = [] ∨ sign = "+" ∨ sign = "-"
  ne_nil : digits ≠ []
  isDigit : ∀ c ∈ digits, c.isDigit = true

theorem Spells.text_ne_nil {s sign digits : Text} (h : s.Spells sign digits) : s ≠ [] := by
  intro hnil
  have hsplit := h.split
  rw [hnil] at hsplit
  exact h.ne_nil (List.append_eq_nil_iff.1 hsplit.symm).2

/-- The integer of a sign and digits. -/
def intOf (sign digits : Text) : Int := signed (decide (sign = "-")) (ofDigits (digits.filterMap CodePoint.digit?))

/-- Decimal digits have values, one each. -/
theorem mapM_digit? (digits : Text) (h : ∀ c ∈ digits, c.isDigit = true) :
    digits.mapM CodePoint.digit? = some (digits.filterMap CodePoint.digit?) := by
  induction digits with
  | nil => rfl
  | cons c rest ih =>
    obtain ⟨n, hn⟩ := Option.isSome_iff_exists.1 (h c List.mem_cons_self)
    have ih := ih fun d hd => h d (List.mem_cons_of_mem c hd)
    simp [List.mapM_cons, hn, ih]

/-- What has values one each is decimal digits. -/
theorem isDigit_of_mapM_digit? {digits : Text} {values : List Nat} (h : digits.mapM CodePoint.digit? = some values) :
    ∀ c ∈ digits, c.isDigit = true := by
  induction digits generalizing values with
  | nil => simp
  | cons c rest ih =>
    rw [List.mapM_cons] at h
    cases hc : c.digit? with
    | none => simp [hc] at h
    | some n =>
      cases hr : rest.mapM CodePoint.digit? with
      | none => simp [hc, hr] at h
      | some ns =>
        intro d hd
        rcases List.mem_cons.1 hd with rfl | hd
        · simp [CodePoint.isDigit, hc]
        · exact ih hr d hd

/-- Decimal digits have as many values as there are digits. -/
theorem length_filterMap_digit? (digits : Text) (h : ∀ c ∈ digits, c.isDigit = true) :
    (digits.filterMap CodePoint.digit?).length = digits.length := by
  induction digits with
  | nil => rfl
  | cons c rest ih =>
    obtain ⟨n, hn⟩ := Option.isSome_iff_exists.1 (h c List.mem_cons_self)
    have ih := ih fun d hd => h d (List.mem_cons_of_mem c hd)
    simp [hn, ih]

theorem isDigit_sign : (CodePoint.ofChar '+').isDigit = false ∧ (CodePoint.ofChar '-').isDigit = false := by
  decide

/-- The sign in front of a spelled integer is split off. -/
theorem splitSign_of_spells {s sign digits : Text} (h : s.Spells sign digits) :
    splitSign s = (decide (sign = "-"), digits) := by
  obtain ⟨rfl, hsign, hne, hdigit⟩ := h
  rcases hsign with rfl | rfl | rfl
  · cases digits with
    | nil => exact absurd rfl hne
    | cons c rest =>
      have hc := hdigit c List.mem_cons_self
      have hminus : c ≠ CodePoint.ofChar '-' := by
        rintro rfl
        rw [isDigit_sign.2] at hc
        cases hc
      have hplus : c ≠ CodePoint.ofChar '+' := by
        rintro rfl
        rw [isDigit_sign.1] at hc
        cases hc
      rw [List.nil_append, splitSign, if_neg hminus, if_neg hplus]
      rfl
  · rfl
  · rfl

/-- What is split off a text is a sign or nothing. -/
theorem exists_of_splitSign (s : Text) :
    ∃ sign : Text, (sign = [] ∨ sign = "+" ∨ sign = "-") ∧ s = sign ++ (splitSign s).2 := by
  cases s with
  | nil => exact ⟨[], Or.inl rfl, rfl⟩
  | cons c rest =>
    by_cases hminus : c = CodePoint.ofChar '-'
    · exact ⟨"-", Or.inr (Or.inr rfl), by rw [splitSign, if_pos hminus, hminus]; rfl⟩
    · by_cases hplus : c = CodePoint.ofChar '+'
      · exact ⟨"+", Or.inr (Or.inl rfl), by rw [splitSign, if_neg hminus, if_pos hplus, hplus]; rfl⟩
      · exact ⟨[], Or.inl rfl, by rw [splitSign, if_neg hminus, if_neg hplus]; rfl⟩

/-- A spelled integer is read, unless it has too many digits. -/
theorem readSigned_of_spells {s sign digits : Text} (h : s.Spells sign digits) :
    s.readSigned =
      if digitLimit < digits.length then .error (.tooManyDigits digits.length) else .ok (intOf sign digits) := by
  have hvalues := mapM_digit? digits h.isDigit
  have hlen := length_filterMap_digit? digits h.isDigit
  unfold readSigned
  rw [splitSign_of_spells h]
  simp only [hvalues]
  cases hds : digits.filterMap CodePoint.digit? with
  | nil =>
    rw [hds] at hlen
    exact absurd (List.length_eq_zero_iff.1 hlen.symm) h.ne_nil
  | cons d ds =>
    simp only [← hds, hlen, gt_iff_lt, intOf]

/-- Only a spelled integer is read, or counted. -/
theorem exists_spells_of_readSigned {s : Text} (h : s.readSigned ≠ .error .notInteger) :
    ∃ sign digits, s.Spells sign digits := by
  obtain ⟨sign, hsign, hs⟩ := exists_of_splitSign s
  unfold readSigned at h
  simp only at h
  split at h
  · exact absurd rfl h
  · exact absurd rfl h
  · next values hne hvalues =>
    refine ⟨sign, (splitSign s).2, hs, hsign, ?_, isDigit_of_mapM_digit? hvalues⟩
    intro hnil
    rw [hnil] at hvalues
    exact hne (Option.some.inj hvalues).symm

/-- A text reads as an integer exactly when it spells that integer in no more digits than one may have. -/
theorem readSigned_eq_ok_iff (s : Text) (n : Int) :
    s.readSigned = .ok n ↔
      ∃ sign digits : Text, s.Spells sign digits ∧ digits.length ≤ digitLimit ∧ n = intOf sign digits := by
  constructor
  · intro h
    obtain ⟨sign, digits, hs⟩ := exists_spells_of_readSigned (by rw [h]; simp)
    rw [readSigned_of_spells hs] at h
    split at h
    · cases h
    · next hshort =>
      cases h
      exact ⟨sign, digits, hs, by omega, rfl⟩
  · rintro ⟨sign, digits, hs, hshort, rfl⟩
    rw [readSigned_of_spells hs, if_neg (by omega)]

/-- A text has too many digits exactly when it spells an integer in so many, and they are more than one may have. -/
theorem readSigned_eq_tooManyDigits_iff (s : Text) (count : Nat) :
    s.readSigned = .error (.tooManyDigits count) ↔
      ∃ sign digits : Text, s.Spells sign digits ∧ digits.length = count ∧ digitLimit < count := by
  constructor
  · intro h
    obtain ⟨sign, digits, hs⟩ := exists_spells_of_readSigned (by rw [h]; simp)
    rw [readSigned_of_spells hs] at h
    split at h
    · next hlong =>
      cases h
      exact ⟨sign, digits, hs, rfl, hlong⟩
    · cases h
  · rintro ⟨sign, digits, hs, rfl, hlong⟩
    rw [readSigned_of_spells hs, if_pos hlong]

/-- A text is no integer exactly when it spells none. -/
theorem readSigned_eq_notInteger_iff (s : Text) :
    s.readSigned = .error .notInteger ↔ ¬ ∃ sign digits, s.Spells sign digits := by
  constructor
  · rintro h ⟨sign, digits, hs⟩
    rw [readSigned_of_spells hs] at h
    split at h <;> cases h
  · intro h
    exact Classical.byContradiction fun hne => h (exists_spells_of_readSigned hne)

end Text

end Admission
