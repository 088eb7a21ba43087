import Admission.Proofs.Json.Strings
import Admission.Proofs.Json.Numbers

/-!
# The nesting of a text of JSON

A text of JSON closes every bracket that it opens, and brackets in its strings count for nothing: it is `Balanced`. Its nesting is
then put together from that of its parts: white space, words, numbers and strings have none, side by side the greater counts, and a
pair of brackets adds one.
-/

namespace Admission

namespace Json

/-- A text leaves the brackets around it as they are, and opens at most so many at once. -/
def Balanced (k : Nat) (s : Text) : Prop :=
  ∀ level deepest, level ≤ deepest →
    s.foldl Brackets.step ⟨level, deepest, .outside⟩ = ⟨level, max deepest (level + k), .outside⟩

/-- A code point that opens and closes nothing. -/
def IsNeutral (c : CodePoint) : Prop := c ≠ '"' ∧ isOpening c = false ∧ isClosing c = false

/-- The nesting of a balanced text. -/
theorem Balanced.nesting_eq {k : Nat} {s : Text} (h : Balanced k s) : nesting s = k := by
  rw [nesting, h 0 0 (Nat.le_refl 0)]
  simp

/-- Side by side the deeper text counts. -/
theorem Balanced.append {k l : Nat} {s t : Text} (hs : Balanced k s) (ht : Balanced l t) : Balanced (max k l) (s ++ t) := by
  intro level deepest hle
  have hmax : max (max deepest (level + k)) (level + l) = max deepest (level + max k l) := by omega
  rw [List.foldl_append, hs level deepest hle, ht level _ (Nat.le_trans hle (Nat.le_max_left ..)), hmax]

theorem step_of_isNeutral {c : CodePoint} (h : IsNeutral c) (level deepest : Nat) :
    Brackets.step ⟨level, deepest, .outside⟩ c = ⟨level, deepest, .outside⟩ := by
  obtain ⟨hquote, hopening, hclosing⟩ := h
  simp only [Brackets.step, if_neg hquote, hopening, hclosing, Bool.false_eq_true, if_false]

/-- A text of neutral code points has no nesting. -/
theorem balanced_of_isNeutral {s : Text} (h : ∀ c ∈ s, IsNeutral c) : Balanced 0 s := by
  intro level deepest hle
  have hmax : max deepest (level + 0) = deepest := by omega
  rw [hmax]
  induction s with
  | nil => rfl
  | cons c s ih =>
    rw [List.forall_mem_cons] at h
    rw [List.foldl_cons, step_of_isNeutral h.1, ih h.2]

/-- A pair of brackets adds one. -/
theorem Balanced.bracketed {k : Nat} {s : Text} {c d : CodePoint} (h : Balanced k s) (hc : isOpening c = true)
    (hd : isClosing d = true) : Balanced (k + 1) (c :: (s ++ [d])) := by
  have hquote : c ≠ '"' := by
    rintro rfl
    exact absurd hc (by decide)
  have hquote' : d ≠ '"' := by
    rintro rfl
    exact absurd hd (by decide)
  have hopening : isOpening d = false := by
    simp only [isClosing, decide_eq_true_eq] at hd
    rcases hd with rfl | rfl <;> decide
  intro level deepest hle
  have hopen : Brackets.step ⟨level, deepest, .outside⟩ c = ⟨level + 1, max deepest (level + 1), .outside⟩ := by
    simp only [Brackets.step, if_neg hquote, hc, if_true]
  have hclose : ∀ n, Brackets.step ⟨level + 1, n, .outside⟩ d = ⟨level, n, .outside⟩ := by
    intro n
    simp only [Brackets.step, if_neg hquote', hopening, hd, Bool.false_eq_true, if_false, if_true, Nat.add_sub_cancel]
  have hmax : max (max deepest (level + 1)) (level + 1 + k) = max deepest (level + (k + 1)) := by omega
  rw [List.foldl_cons, hopen, List.foldl_append, h _ _ (Nat.le_max_right ..), List.foldl_cons, hclose, List.foldl_nil, hmax]

/-! ## Parts without nesting -/

theorem isNeutral_of_isSpace {c : CodePoint} (h : isSpace c = true) : IsNeutral c := by
  simp only [isSpace, decide_eq_true_eq] at h
  unfold IsNeutral
  rcases h with rfl | rfl | rfl | rfl <;> decide

theorem IsSpace.balanced {s : Text} (h : IsSpace s) : Balanced 0 s :=
  balanced_of_isNeutral fun c hc => isNeutral_of_isSpace (h c hc)

theorem isNeutral_of_isAsciiDigit {c : CodePoint} (h : c.isAsciiDigit = true) : IsNeutral c := by
  refine ⟨?_, ?_, ?_⟩
  · rintro rfl
    exact absurd h (by decide)
  · rw [isOpening, decide_eq_false_iff_not]
    rintro (rfl | rfl) <;> exact absurd h (by decide)
  · rw [isClosing, decide_eq_false_iff_not]
    rintro (rfl | rfl) <;> exact absurd h (by decide)

theorem Numeral.IsWritten.isNeutral {n : Numeral} (h : n.IsWritten) : ∀ c ∈ n.token, IsNeutral c := by
  intro c hc
  rcases h.mem_token hc with hdigit | hmark
  · exact isNeutral_of_isAsciiDigit hdigit
  · unfold IsNeutral
    rcases hmark with rfl | rfl | rfl | rfl | rfl <;> decide

theorem balanced_separator {c : CodePoint} (h : c = ',' ∨ c = ':') : Balanced 0 [c] := by
  refine balanced_of_isNeutral ?_
  rw [List.forall_mem_singleton]
  unfold IsNeutral
  rcases h with rfl | rfl <;> decide

/-! ## Strings -/

/-- A hexadecimal digit is no quote and no backslash. -/
theorem IsHexDigit.not_special {c : CodePoint} {n : Nat} (h : IsHexDigit c n) : c ≠ '"' ∧ c ≠ '\\' := by
  unfold IsHexDigit at h
  constructor
  · rintro rfl
    have hval : CodePoint.val '"' = 0x22 := by decide
    omega
  · rintro rfl
    have hval : CodePoint.val '\\' = 0x5C := by decide
    omega

/-- A code point in a string that neither ends it nor begins an escape changes nothing. -/
theorem step_inside {c : CodePoint} (hquote : c ≠ '"') (hslash : c ≠ '\\') (level deepest : Nat) :
    Brackets.step ⟨level, deepest, .inside⟩ c = ⟨level, deepest, .inside⟩ := by
  simp only [Brackets.step, if_neg hquote, if_neg hslash]

/-- An escape by number in a string changes nothing. -/
theorem foldl_unitEscape {a b c d u : CodePoint} (h : SpellsUnit a b c d u) (level deepest : Nat) :
    (unitEscape a b c d).foldl Brackets.step ⟨level, deepest, .inside⟩ = ⟨level, deepest, .inside⟩ := by
  obtain ⟨i, j, k, l, ha, hb, hc, hd, -⟩ := h
  have hescape : Brackets.step (Brackets.step ⟨level, deepest, .inside⟩ '\\') 'u' = ⟨level, deepest, .inside⟩ := rfl
  simp only [unitEscape, List.foldl_cons, List.foldl_nil, hescape, step_inside ha.not_special.1 ha.not_special.2,
    step_inside hb.not_special.1 hb.not_special.2, step_inside hc.not_special.1 hc.not_special.2,
    step_inside hd.not_special.1 hd.not_special.2]

/-- What stands between the quotes of a string changes nothing. -/
theorem Quotes.foldl_inside {raw s : Text} (h : Quotes raw s) (level deepest : Nat) :
    raw.foldl Brackets.step ⟨level, deepest, .inside⟩ = ⟨level, deepest, .inside⟩ := by
  induction h with
  | nil => rfl
  | plain hquote hslash _ _ ih => rw [List.foldl_cons, step_inside hquote hslash, ih]
  | letter _ _ ih =>
    rw [List.foldl_cons, List.foldl_cons]
    exact ih
  | pair hhigh hlow _ _ _ _ ih =>
    rw [List.foldl_append, List.foldl_append, foldl_unitEscape hhigh, foldl_unitEscape hlow, ih]
  | lone hu _ _ ih => rw [List.foldl_append, foldl_unitEscape hu, ih]

/-- A string has no nesting, whatever brackets stand in it. -/
theorem Quotes.balanced {raw s : Text} (h : Quotes raw s) :
    Balanced 0 (CodePoint.ofChar '"' :: (raw ++ [CodePoint.ofChar '"'])) := by
  intro level deepest hle
  have hmax : max deepest (level + 0) = deepest := by omega
  have hopen : Brackets.step ⟨level, deepest, .outside⟩ '"' = ⟨level, deepest, .inside⟩ := rfl
  rw [hmax, List.foldl_cons, hopen, List.foldl_append, h.foldl_inside]
  rfl

/-! ## Sequences -/

/-- Something holds of a text and what it denotes wherever at least the nesting of the text is allowed. -/
def WithinNesting {α : Type} (Q : Nat → Text → α → Prop) (s : Text) (x : α) : Prop :=
  ∃ k, Balanced k s ∧ ∀ depth, k ≤ depth → Q depth s x

section Sequences

variable {α : Type} {Q : Nat → Text → α → Prop} {s : Text} {xs : List α}

/-- What holds of the items of a sequence within their nesting holds of all of them within that of the sequence. -/
theorem Sequence.withinNesting (h : Sequence (WithinNesting Q) s xs) :
    WithinNesting (fun depth s xs => Sequence (Q depth) s xs) s xs := by
  induction h with
  | one h hafter =>
    obtain ⟨k, hk, hQ⟩ := h
    exact ⟨max k 0, hk.append hafter.balanced, fun depth hle => .one (hQ depth (by omega)) hafter⟩
  | cons h hafter hbefore _ ih =>
    obtain ⟨k, hk, hQ⟩ := h
    obtain ⟨l, hl, hrest⟩ := ih
    refine ⟨max k (max 0 (max 0 (max 0 l))),
      hk.append (hafter.balanced.append ((balanced_separator (.inl rfl)).append (hbefore.balanced.append hl))), ?_⟩
    intro depth hle
    exact .cons (hQ depth (by omega)) hafter hbefore (hrest depth (by omega))

/-- What holds of the items between brackets within their nesting holds of all of them within that of what is between. -/
theorem Enclosed.withinNesting (h : Enclosed (WithinNesting Q) s xs) :
    WithinNesting (fun depth s xs => Enclosed (Q depth) s xs) s xs := by
  cases h with
  | none h => exact ⟨0, h.balanced, fun _ _ => .none h⟩
  | some hbefore h =>
    obtain ⟨k, hk, hQ⟩ := h.withinNesting
    exact ⟨max 0 k, hbefore.balanced.append hk, fun depth hle => .some hbefore (hQ depth (by omega))⟩

end Sequences

/-- What holds of the value of a member within its nesting holds within that of the member. -/
theorem Member.withinNesting {Q : Nat → Text → Value → Prop} {s : Text} {m : Text × Value}
    (h : Member (WithinNesting Q) s m) : WithinNesting (fun depth s m => Member (Q depth) s m) s m := by
  cases h with
  | @mk raw name before after s v hname hbefore hafter h =>
    obtain ⟨k, hk, hQ⟩ := h
    have hcolon : Balanced 0 [CodePoint.ofChar ':'] := balanced_separator (.inr rfl)
    have hbalanced := hname.balanced.append (hbefore.balanced.append (hcolon.append (hafter.balanced.append hk)))
    refine ⟨max 0 (max 0 (max 0 (max 0 k))), ?_, fun depth hle => .mk hname hbefore hafter (hQ depth (by omega))⟩
    simpa only [List.cons_append, List.append_assoc, List.nil_append] using hbalanced

end Json

end Admission
