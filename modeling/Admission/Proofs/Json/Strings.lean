import Admission.Proofs.Json.Grammar
import Mathlib.Tactic.SplitIfs

/-!
# Strings are read as they are quoted

The reader of strings takes them in two steps, first into items and then into a text. What it takes between the quotes is what the
grammar has there, and the text is the one that it denotes (`readString_eq_ok_iff`).
-/

namespace Admission

/-- A code point is that of its value. -/
theorem CodePoint.eq_ofNat_iff {c : CodePoint} {n : Nat} (h : n < 0x110000) : CodePoint.ofNat n = c ↔ c.val = n := by
  rw [ofNat, dif_pos h]
  constructor
  · rintro rfl
    rfl
  · intro hval
    cases c
    simp only at hval
    subst hval
    rfl

namespace Json

/-! ## Escapes -/

/-- The value of a hexadecimal digit. -/
theorem hexDigit?_eq_some_iff (c : CodePoint) (n : Nat) : c.hexDigit? = some n ↔ IsHexDigit c n := by
  unfold CodePoint.hexDigit? IsHexDigit
  constructor
  · intro h
    split_ifs at h with hdigit hupper hlower
    · cases h
      omega
    · cases h
      omega
    · cases h
      omega
  · rintro (⟨hn, hc⟩ | ⟨hlow, hhigh, hc | hc⟩)
    · rw [if_pos (by omega), hc, Nat.add_sub_cancel_left]
    · rw [if_neg (by omega), if_pos (by omega), hc, Nat.add_sub_cancel_left]
    · rw [if_neg (by omega), if_neg (by omega), if_pos (by omega), hc, Nat.add_sub_cancel_left]

theorem IsHexDigit.lt {c : CodePoint} {n : Nat} (h : IsHexDigit c n) : n < 16 := by
  unfold IsHexDigit at h
  omega

/-- The unit of four hexadecimal digits. -/
theorem unit?_eq_some_iff (a b c d u : CodePoint) : unit? a b c d = some u ↔ SpellsUnit a b c d u := by
  have hval : ∀ i j k l, i < 16 → j < 16 → k < 16 → l < 16 →
      (CodePoint.ofNat (i * 0x1000 + j * 0x100 + k * 0x10 + l) = u ↔ u.val = ((i * 16 + j) * 16 + k) * 16 + l) := by
    intro i j k l hi hj hk hl
    rw [CodePoint.eq_ofNat_iff (by omega)]
    have hsum : i * 0x1000 + j * 0x100 + k * 0x10 + l = ((i * 16 + j) * 16 + k) * 16 + l := by omega
    rw [hsum]
  unfold unit? SpellsUnit
  simp only [Option.bind_eq_bind, Option.bind_eq_some_iff, Option.pure_def, Option.some.injEq, hexDigit?_eq_some_iff]
  constructor
  · rintro ⟨i, hi, j, hj, k, hk, l, hl, hu⟩
    exact ⟨i, j, k, l, hi, hj, hk, hl, (hval i j k l hi.lt hj.lt hk.lt hl.lt).1 hu⟩
  · rintro ⟨i, j, k, l, hi, hj, hk, hl, hu⟩
    exact ⟨i, hi, j, hj, k, hk, l, hl, (hval i j k l hi.lt hj.lt hk.lt hl.lt).2 hu⟩

/-- The code point of a letter behind a backslash. -/
theorem letterEscape?_eq_some_iff (e c : CodePoint) : letterEscape? e = some c ↔ (e, c) ∈ letterEscapes := by
  simp only [letterEscapes, List.mem_cons, List.not_mem_nil, or_false, Prod.mk.injEq]
  constructor
  · intro h
    unfold letterEscape? at h
    split_ifs at h with hself hb hf hn hr ht
    · cases h
      rcases hself with rfl | rfl | rfl <;> simp
    · simp_all
    · simp_all
    · simp_all
    · simp_all
    · simp_all
  · rintro (⟨rfl, rfl⟩ | ⟨rfl, rfl⟩ | ⟨rfl, rfl⟩ | ⟨rfl, rfl⟩ | ⟨rfl, rfl⟩ | ⟨rfl, rfl⟩ | ⟨rfl, rfl⟩ | ⟨rfl, rfl⟩) <;> decide

theorem letterEscape?_u : letterEscape? (CodePoint.ofChar 'u') = none := by decide

/-! ## Items -/

/-- What stands between the quotes of a string, and the items that it is read as. -/
inductive Itemised : Text → List StringItem → Prop where
  | nil : Itemised [] []
  | plain {c : CodePoint} {raw : Text} {items : List StringItem} (hquote : c ≠ '"') (hslash : c ≠ '\\')
      (hcontrol : 0x1F < c.val) (h : Itemised raw items) : Itemised (c :: raw) (.plain c :: items)
  | letter {e c : CodePoint} {raw : Text} {items : List StringItem} (he : (e, c) ∈ letterEscapes) (h : Itemised raw items) :
    Itemised (CodePoint.ofChar '\\' :: e :: raw) (.plain c :: items)
  | unit {a b c d u : CodePoint} {raw : Text} {items : List StringItem} (hu : SpellsUnit a b c d u)
      (h : Itemised raw items) : Itemised (unitEscape a b c d ++ raw) (.unit u :: items)

/-- Items taken behind another one. -/
theorem consItem_eq_ok_iff (item : StringItem) (r : Except Error (List StringItem × Text)) (items : List StringItem)
    (rest : Text) : consItem item r = .ok (items, rest) ↔ ∃ others, r = .ok (others, rest) ∧ items = item :: others := by
  cases r with
  | error e => simp [consItem]
  | ok r =>
    obtain ⟨others, behind⟩ := r
    simp only [consItem, Except.ok.injEq, Prod.mk.injEq]
    constructor
    · rintro ⟨rfl, rfl⟩
      exact ⟨others, ⟨rfl, rfl⟩, rfl⟩
    · rintro ⟨_, ⟨rfl, rfl⟩, rfl⟩
      exact ⟨rfl, rfl⟩

/-- An error in the items behind one is that of all. -/
theorem consItem_eq_error_iff (item : StringItem) (r : Except Error (List StringItem × Text)) (e : Error) :
    consItem item r = .error e ↔ r = .error e := by
  cases r <;> simp [consItem]

/-- What is wrong with the items of a string is a problem, with its place. -/
theorem exists_problem_of_stringItems {opening s : Text} {e : Error} (h : stringItems opening s = .error e) :
    ∃ kind place, e = .problem kind place := by
  fun_induction stringItems opening s with
  | case1 => exact ⟨_, _, (Except.error.inj h).symm⟩
  | case2 => cases h
  | case3 => exact ⟨_, _, (Except.error.inj h).symm⟩
  | case4 _ _ _ _ _ _ _ _ _ ih => exact ih ((consItem_eq_error_iff _ _ _).1 h)
  | case5 => exact ⟨_, _, (Except.error.inj h).symm⟩
  | case6 => exact ⟨_, _, (Except.error.inj h).symm⟩
  | case7 _ _ _ _ _ _ ih => exact ih ((consItem_eq_error_iff _ _ _).1 h)
  | case8 => exact ⟨_, _, (Except.error.inj h).symm⟩
  | case9 => exact ⟨_, _, (Except.error.inj h).symm⟩
  | case10 _ _ _ _ _ ih => exact ih ((consItem_eq_error_iff _ _ _).1 h)

/-- A string that is not read has a problem, with its place. -/
theorem exists_problem_of_readString {opening s : Text} {e : Error} (h : readString opening s = .error e) :
    ∃ kind place, e = .problem kind place := by
  unfold readString at h
  split at h
  · cases h
  · next hitems =>
    cases h
    exact exists_problem_of_stringItems hitems

/-- What is read as items is itemised, and a quote stands behind it. -/
theorem itemised_of_stringItems {opening s rest : Text} {items : List StringItem}
    (h : stringItems opening s = .ok (items, rest)) :
    ∃ raw, s = raw ++ CodePoint.ofChar '"' :: rest ∧ Itemised raw items := by
  fun_induction stringItems opening s generalizing items rest with
  | case1 => cases h
  | case2 behind =>
    cases h
    exact ⟨[], rfl, .nil⟩
  | case3 => cases h
  | case4 a b c d next behind u hu _ ih =>
    obtain ⟨others, hothers, rfl⟩ := (consItem_eq_ok_iff _ _ _ _).1 h
    obtain ⟨raw, hraw, hitems⟩ := ih hothers
    refine ⟨unitEscape a b c d ++ raw, ?_, .unit ((unit?_eq_some_iff a b c d u).1 hu) hitems⟩
    rw [hraw]
    rfl
  | case5 => cases h
  | case6 => cases h
  | case7 e behind _ c hc _ ih =>
    obtain ⟨others, hothers, rfl⟩ := (consItem_eq_ok_iff _ _ _ _).1 h
    obtain ⟨raw, rfl, hitems⟩ := ih hothers
    exact ⟨CodePoint.ofChar '\\' :: e :: raw, rfl, .letter ((letterEscape?_eq_some_iff e c).1 hc) hitems⟩
  | case8 => cases h
  | case9 => cases h
  | case10 c behind hquote hslash hcontrol ih =>
    obtain ⟨others, hothers, rfl⟩ := (consItem_eq_ok_iff _ _ _ _).1 h
    obtain ⟨raw, rfl, hitems⟩ := ih hothers
    exact ⟨c :: raw, rfl, .plain hquote hslash (by omega) hitems⟩

/-- What is itemised is read as its items, up to the quote behind it. -/
theorem stringItems_of_itemised {raw : Text} {items : List StringItem} (h : Itemised raw items) (opening rest : Text) :
    stringItems opening (raw ++ CodePoint.ofChar '"' :: rest) = .ok (items, rest) := by
  have hslashQuote : CodePoint.ofChar '\\' ≠ CodePoint.ofChar '"' := by decide
  induction h with
  | nil =>
    rw [List.nil_append, stringItems.eq_def]
    simp only [if_true]
  | @plain c raw items hquote hslash hcontrol _ ih =>
    have hplain : ¬ c.val ≤ 0x1F := by omega
    rw [List.cons_append, stringItems.eq_def]
    simp only [if_neg hquote, if_neg hslash, if_neg hplain, ih]
    rfl
  | @letter e c raw items he _ ih =>
    have hletter := (letterEscape?_eq_some_iff e c).2 he
    have hnumber : e ≠ CodePoint.ofChar 'u' := by
      rintro rfl
      rw [letterEscape?_u] at hletter
      cases hletter
    rw [List.cons_append, List.cons_append, stringItems.eq_def]
    simp only [if_neg hslashQuote, if_true, if_neg hnumber, hletter, ih]
    rfl
  | @unit a b c d u raw items hu _ ih =>
    have hunit := (unit?_eq_some_iff a b c d u).2 hu
    -- The reader asks for something behind the digits; the closing quote is there at least.
    obtain ⟨next, behind, hbehind⟩ : ∃ next behind, raw ++ CodePoint.ofChar '"' :: rest = next :: behind := by
      cases raw with
      | nil => exact ⟨_, _, rfl⟩
      | cons next raw => exact ⟨next, _, rfl⟩
    have hshape : unitEscape a b c d ++ raw ++ CodePoint.ofChar '"' :: rest =
        CodePoint.ofChar '\\' :: CodePoint.ofChar 'u' :: a :: b :: c :: d :: next :: behind := by
      rw [List.append_assoc, hbehind]
      rfl
    rw [hbehind] at ih
    rw [hshape, stringItems.eq_def]
    simp only [if_neg hslashQuote, if_true, hunit, ih]
    rfl

/-! ## Texts -/

/-- The code point of two halves of a pair. -/
theorem joinSurrogates_eq_iff {high low u : CodePoint} (hhigh : high.isHighSurrogate = true) (hlow : low.isLowSurrogate = true) :
    CodePoint.joinSurrogates high low = u ↔ u.val = 0x10000 + (high.val - 0xD800) * 0x400 + (low.val - 0xDC00) := by
  simp only [CodePoint.isHighSurrogate, decide_eq_true_eq] at hhigh
  simp only [CodePoint.isLowSurrogate, decide_eq_true_eq] at hlow
  rw [CodePoint.joinSurrogates, CodePoint.eq_ofNat_iff (by omega)]

/-- The first item of a text is the second half of a pair exactly when the text begins with its escape. -/
theorem Itemised.beginsWithLow_iff {raw : Text} {items : List StringItem} (h : Itemised raw items) :
    BeginsWithLow raw ↔ ∃ low others, items = .unit low :: others ∧ low.isLowSurrogate = true := by
  constructor
  · rintro ⟨a, b, c, d, u, rest, rfl, hu, hlow⟩
    cases h with
    | plain _ hslash => exact absurd rfl hslash
    | letter he =>
      have hletter := (letterEscape?_eq_some_iff _ _).2 he
      rw [letterEscape?_u] at hletter
      cases hletter
    | unit hu' h =>
      have heq := ((unit?_eq_some_iff _ _ _ _ _).2 hu).symm.trans ((unit?_eq_some_iff _ _ _ _ _).2 hu')
      cases heq
      exact ⟨u, _, rfl, hlow⟩
  · rintro ⟨low, others, rfl, hlow⟩
    cases h with
    | unit hu h => exact ⟨_, _, _, _, low, _, rfl, hu, hlow⟩

/-- Items that are read give the text that the grammar has for what is between the quotes. The cases are those of `StringItem.join`,
which looks at two items at once. -/
theorem quotes_of_itemised {raw : Text} {items : List StringItem} (h : Itemised raw items) :
    Quotes raw (StringItem.join items) := by
  fun_induction StringItem.join items generalizing raw with
  | case1 =>
    cases h
    exact .nil
  | case2 c items ih =>
    cases h with
    | plain hquote hslash hcontrol h => exact .plain hquote hslash hcontrol (ih h)
    | letter he h => exact .letter he (ih h)
  | case3 high low items hpair ih =>
    obtain ⟨hhigh, hlow⟩ := Bool.and_eq_true_iff.1 hpair
    cases h with
    | unit hu h =>
      cases h with
      | unit hu' h => exact .pair hu hu' hhigh hlow ((joinSurrogates_eq_iff hhigh hlow).1 rfl) (ih h)
  | case4 high low items hpair ih =>
    cases h with
    | unit hu h =>
      refine .lone hu ?_ (ih h)
      rintro ⟨hhigh, hlow⟩
      obtain ⟨_, _, heq, hlow⟩ := h.beginsWithLow_iff.1 hlow
      cases heq
      exact hpair (Bool.and_eq_true_iff.2 ⟨hhigh, hlow⟩)
  | case5 u items hunit ih =>
    cases h with
    | unit hu h =>
      refine .lone hu ?_ (ih h)
      rintro ⟨-, hlow⟩
      obtain ⟨low, others, heq, -⟩ := h.beginsWithLow_iff.1 hlow
      exact hunit low others heq

/-- A unit that does not begin a pair gives itself. -/
theorem join_unit {u : CodePoint} {items : List StringItem}
    (h : ¬ (u.isHighSurrogate = true ∧ ∃ low others, items = .unit low :: others ∧ low.isLowSurrogate = true)) :
    StringItem.join (.unit u :: items) = u :: StringItem.join items := by
  match items with
  | [] => rfl
  | .plain c :: others => rfl
  | .unit low :: others =>
    rw [StringItem.join, if_neg]
    intro hpair
    obtain ⟨hhigh, hlow⟩ := Bool.and_eq_true_iff.1 hpair
    exact h ⟨hhigh, low, others, rfl, hlow⟩

/-- What the grammar has between quotes is itemised, and the items give the text that it denotes. -/
theorem exists_itemised_of_quotes {raw s : Text} (h : Quotes raw s) :
    ∃ items, Itemised raw items ∧ StringItem.join items = s := by
  induction h with
  | nil => exact ⟨[], .nil, rfl⟩
  | @plain c raw s hquote hslash hcontrol _ ih =>
    obtain ⟨items, hitems, rfl⟩ := ih
    exact ⟨.plain c :: items, .plain hquote hslash hcontrol hitems, rfl⟩
  | @letter e c raw s he _ ih =>
    obtain ⟨items, hitems, rfl⟩ := ih
    exact ⟨.plain c :: items, .letter he hitems, rfl⟩
  | @pair a b c d a' b' c' d' high low u raw s hhigh hlow isHigh isLow hu _ ih =>
    obtain ⟨items, hitems, rfl⟩ := ih
    refine ⟨.unit high :: .unit low :: items, .unit hhigh (.unit hlow hitems), ?_⟩
    rw [StringItem.join, if_pos (Bool.and_eq_true_iff.2 ⟨isHigh, isLow⟩), (joinSurrogates_eq_iff isHigh isLow).2 hu]
  | @lone a b c d u raw s hu hlone _ ih =>
    obtain ⟨items, hitems, rfl⟩ := ih
    refine ⟨.unit u :: items, .unit hu hitems, join_unit ?_⟩
    rw [← hitems.beginsWithLow_iff]
    exact hlone

/-- A string is read behind its opening quote exactly when the grammar has what stands in front of a quote, and then as the text
that it denotes. -/
theorem readString_eq_ok_iff (opening t s rest : Text) :
    readString opening t = .ok (s, rest) ↔ ∃ raw, t = raw ++ CodePoint.ofChar '"' :: rest ∧ Quotes raw s := by
  constructor
  · intro h
    unfold readString at h
    split at h
    · next items behind hitems =>
      cases h
      obtain ⟨raw, hraw, hitemised⟩ := itemised_of_stringItems hitems
      exact ⟨raw, hraw, quotes_of_itemised hitemised⟩
    · cases h
  · rintro ⟨raw, rfl, h⟩
    obtain ⟨items, hitems, rfl⟩ := exists_itemised_of_quotes h
    rw [readString, stringItems_of_itemised hitems]

end Json

end Admission
