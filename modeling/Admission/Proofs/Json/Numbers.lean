import Admission.Proofs.Json.Grammar

/-!
# Numbers and words are read as they are written

The reader of numbers goes as far as the grammar reaches. What it takes is written as the grammar has it
(`isWritten_of_spanNumeral`), and a number that ends where its text ends is taken whole (`spanNumeral_token_append`). With the
three words that are values this is all that a scalar can be (`denotes_of_readScalar`).
-/

namespace Admission

namespace Json

/-- A text is empty or begins with a code point of a kind. -/
def Begins (p : CodePoint → Prop) (s : Text) : Prop := ∀ c ∈ s.head?, p c

/-- A code point that may stand behind a value: white space, a comma or a closing bracket. -/
def IsEnd (c : CodePoint) : Prop := isSpace c = true ∨ c = ',' ∨ isClosing c = true

/-- The beginning of two texts together is that of the first, or of the second behind an empty first. -/
theorem Begins.append {p : CodePoint → Prop} {s t : Text} (hs : Begins p s) (ht : Begins p t) : Begins p (s ++ t) := by
  cases s with
  | nil => exact ht
  | cons c s =>
    intro d hd
    exact hs d hd

theorem Begins.mono {p q : CodePoint → Prop} {s : Text} (h : ∀ c, p c → q c) (hs : Begins p s) : Begins q s :=
  fun c hc => h c (hs c hc)

theorem begins_cons (p : CodePoint → Prop) (c : CodePoint) (s : Text) : Begins p (c :: s) ↔ p c := by
  simp [Begins]

theorem begins_nil (p : CodePoint → Prop) : Begins p [] := by
  intro c hc
  cases hc

theorem isEnd_iff (c : CodePoint) :
    IsEnd c ↔ (c = ' ' ∨ c = '\t' ∨ c = '\n' ∨ c = '\r') ∨ c = ',' ∨ c = ']' ∨ c = '\x7d' := by
  simp only [IsEnd, isSpace, isClosing, decide_eq_true_eq]

/-- An end carries no number on. -/
theorem IsEnd.not_mem_number {c : CodePoint} (h : IsEnd c) :
    c.isAsciiDigit = false ∧ c ≠ '.' ∧ c ≠ 'e' ∧ c ≠ 'E' := by
  rw [isEnd_iff] at h
  rcases h with (rfl | rfl | rfl | rfl) | rfl | rfl | rfl <;> decide

/-! ## Digits -/

/-- Digits are taken whole where no digit stands behind them. -/
theorem spanDigits_append_eq {digits rest : Text} (h : ∀ c ∈ digits, c.isAsciiDigit = true)
    (hrest : Begins (fun c => c.isAsciiDigit = false) rest) : spanDigits (digits ++ rest) = (digits, rest) := by
  have hnone : rest.takeWhile CodePoint.isAsciiDigit = [] ∧ rest.dropWhile CodePoint.isAsciiDigit = rest := by
    cases rest with
    | nil => exact ⟨rfl, rfl⟩
    | cons c rest =>
      have hc : ¬ c.isAsciiDigit = true := by
        rw [(begins_cons _ _ _).1 hrest]
        exact Bool.false_ne_true
      exact ⟨List.takeWhile_cons_of_neg hc, List.dropWhile_cons_of_neg hc⟩
  rw [spanDigits, List.takeWhile_append_of_pos h, List.dropWhile_append_of_pos h, hnone.1, hnone.2, List.append_nil]

/-- What is taken from the front as digits is digits. -/
theorem isAsciiDigit_of_mem_spanDigits (s : Text) : ∀ c ∈ (spanDigits s).1, c.isAsciiDigit = true :=
  List.all_eq_true.1 List.all_takeWhile

/-! ## The parts of a number -/

theorem not_sign_of_isAsciiDigit {c : CodePoint} (h : c.isAsciiDigit = true) : ¬ (c = '+' ∨ c = '-') := by
  rintro (rfl | rfl) <;> exact absurd h (by decide)

/-- A whole part begins with a digit. -/
theorem IsWhole.begins {w : Text} (h : IsWhole w) : ∃ c rest, w = c :: rest ∧ c.isAsciiDigit = true := by
  rcases h with rfl | ⟨⟨hne, hdigits⟩, -⟩
  · exact ⟨CodePoint.ofChar '0', [], rfl, by decide⟩
  · cases w with
    | nil => exact absurd rfl hne
    | cons c w => exact ⟨c, w, rfl, hdigits c (List.mem_cons_self ..)⟩

/-- What is taken as the whole part is one. -/
theorem isWhole_of_spanWhole {s w rest : Text} (h : spanWhole s = some (w, rest)) : IsWhole w ∧ s = w ++ rest := by
  cases s with
  | nil => cases h
  | cons c s =>
    rw [spanWhole] at h
    split at h
    · next hzero =>
      cases h
      subst hzero
      exact ⟨.inl rfl, rfl⟩
    · next hzero =>
      split at h
      · next hdigit =>
        have hspan : spanDigits (c :: s) = (w, rest) := Option.some.inj h
        have happend := spanDigits_append (c :: s)
        have hdigits := isAsciiDigit_of_mem_spanDigits (c :: s)
        have hfirst : (spanDigits (c :: s)).1 = c :: (spanDigits s).1 := List.takeWhile_cons_of_pos hdigit
        rw [hspan] at happend hdigits hfirst
        dsimp only at hfirst
        refine ⟨.inr ⟨⟨?_, hdigits⟩, ?_⟩, happend.symm⟩
        · rw [hfirst]
          exact List.cons_ne_nil _ _
        · rw [hfirst, List.head?_cons, ne_eq, Option.some.injEq]
          exact hzero
      · cases h

/-- A whole part is taken whole where no digit stands behind it. -/
theorem spanWhole_append {w rest : Text} (h : IsWhole w) (hrest : Begins (fun c => c.isAsciiDigit = false) rest) :
    spanWhole (w ++ rest) = some (w, rest) := by
  rcases h with rfl | ⟨⟨hne, hdigits⟩, hzero⟩
  · rfl
  · have hspan := spanDigits_append_eq hdigits hrest
    cases w with
    | nil => exact absurd rfl hne
    | cons c w =>
      rw [List.head?_cons, ne_eq, Option.some.injEq] at hzero
      rw [List.cons_append] at hspan ⊢
      rw [spanWhole, if_neg hzero, if_pos (hdigits c (List.mem_cons_self ..)), hspan]

/-- The fraction in front of a text that is not empty. -/
theorem spanFraction_cons (c : CodePoint) (s : Text) :
    spanFraction (c :: s) = if c = '.' ∧ (spanDigits s).1 ≠ [] then (c :: (spanDigits s).1, (spanDigits s).2) else ([], c :: s) :=
  rfl

/-- What is taken as the fraction is one. -/
theorem isFraction_of_spanFraction (s : Text) : IsFraction (spanFraction s).1 ∧ s = (spanFraction s).1 ++ (spanFraction s).2 := by
  cases s with
  | nil => exact ⟨.inl rfl, rfl⟩
  | cons c s =>
    rw [spanFraction_cons]
    split
    · next hpoint =>
      refine ⟨.inr ⟨_, by rw [hpoint.1], hpoint.2, isAsciiDigit_of_mem_spanDigits s⟩, ?_⟩
      rw [List.cons_append, spanDigits_append]
    · exact ⟨.inl rfl, rfl⟩

/-- A fraction is taken whole where neither a point nor a digit stands behind it. -/
theorem spanFraction_append {f rest : Text} (h : IsFraction f)
    (hrest : Begins (fun c => c.isAsciiDigit = false ∧ c ≠ '.') rest) : spanFraction (f ++ rest) = (f, rest) := by
  rcases h with rfl | ⟨digits, rfl, hne, hdigits⟩
  · cases rest with
    | nil => rfl
    | cons c rest =>
      have hpoint : ¬ (c = '.' ∧ (spanDigits rest).1 ≠ []) := fun hc => ((begins_cons _ _ _).1 hrest).2 hc.1
      rw [List.nil_append, spanFraction_cons, if_neg hpoint]
  · have hspan := spanDigits_append_eq hdigits (hrest.mono fun c hc => hc.1)
    rw [List.cons_append, spanFraction_cons, hspan, if_pos ⟨rfl, hne⟩]

/-- What is taken as the sign of an exponent is one. -/
theorem sign_of_spanSign (s : Text) :
    ((spanSign s).1 = [] ∨ (spanSign s).1 = "+" ∨ (spanSign s).1 = "-") ∧ s = (spanSign s).1 ++ (spanSign s).2 := by
  cases s with
  | nil => exact ⟨.inl rfl, rfl⟩
  | cons c s =>
    rw [spanSign]
    split
    · next hc =>
      rcases hc with rfl | rfl
      · exact ⟨.inr (.inl rfl), rfl⟩
      · exact ⟨.inr (.inr rfl), rfl⟩
    · exact ⟨.inl rfl, rfl⟩

/-- The sign of an exponent is taken where a digit stands behind it. -/
theorem spanSign_append {sign rest : Text} (h : sign = [] ∨ sign = "+" ∨ sign = "-")
    (hrest : Begins (fun c => c.isAsciiDigit = true) rest) : spanSign (sign ++ rest) = (sign, rest) := by
  rcases h with rfl | rfl | rfl
  · cases rest with
    | nil => rfl
    | cons c rest =>
      rw [List.nil_append, spanSign, if_neg (not_sign_of_isAsciiDigit ((begins_cons _ _ _).1 hrest))]
  · rfl
  · rfl

/-- The exponent in front of a text that is not empty. -/
theorem spanExponent_cons (c : CodePoint) (s : Text) :
    spanExponent (c :: s) =
      if (c = 'e' ∨ c = 'E') ∧ (spanDigits (spanSign s).2).1 ≠ [] then
        (c :: ((spanSign s).1 ++ (spanDigits (spanSign s).2).1), (spanDigits (spanSign s).2).2)
      else ([], c :: s) :=
  rfl

/-- What is taken as the exponent is one. -/
theorem isExponent_of_spanExponent (s : Text) : IsExponent (spanExponent s).1 ∧ s = (spanExponent s).1 ++ (spanExponent s).2 := by
  cases s with
  | nil => exact ⟨.inl rfl, rfl⟩
  | cons c s =>
    obtain ⟨hsign, happend⟩ := sign_of_spanSign s
    rw [spanExponent_cons]
    split
    · next hletter =>
      refine ⟨.inr ⟨c, _, _, rfl, hletter.1, hsign, hletter.2, isAsciiDigit_of_mem_spanDigits _⟩, ?_⟩
      rw [List.cons_append, List.append_assoc, spanDigits_append, ← happend]
    · exact ⟨.inl rfl, rfl⟩

/-- An exponent is taken whole where an end stands behind it. -/
theorem spanExponent_append {e rest : Text} (h : IsExponent e) (hrest : Begins IsEnd rest) :
    spanExponent (e ++ rest) = (e, rest) := by
  rcases h with rfl | ⟨c, sign, digits, rfl, hc, hsign, hne, hdigits⟩
  · cases rest with
    | nil => rfl
    | cons c rest =>
      obtain ⟨-, -, hlower, hupper⟩ := ((begins_cons _ _ _).1 hrest).not_mem_number
      have hletter : ¬ ((c = 'e' ∨ c = 'E') ∧ (spanDigits (spanSign rest).2).1 ≠ []) := by
        rintro ⟨hc | hc, -⟩
        · exact hlower hc
        · exact hupper hc
      rw [List.nil_append, spanExponent_cons, if_neg hletter]
  · have hfirst : Begins (fun c => c.isAsciiDigit = true) (digits ++ rest) := by
      cases digits with
      | nil => exact absurd rfl hne
      | cons d digits => exact (begins_cons _ _ _).2 (hdigits d (List.mem_cons_self ..))
    have hspan := spanDigits_append_eq hdigits (hrest.mono fun c hc => hc.not_mem_number.1)
    rw [List.cons_append, List.append_assoc, spanExponent_cons, spanSign_append hsign hfirst, hspan, if_pos ⟨hc, hne⟩]

/-! ## Numbers -/

/-- The number whose sign has been taken, and the text behind it. -/
def spanUnsigned (negative : Bool) (s : Text) : Option (Numeral × Text) :=
  (spanWhole s).map fun r =>
    (⟨negative, r.1, (spanFraction r.2).1, (spanExponent (spanFraction r.2).2).1⟩, (spanExponent (spanFraction r.2).2).2)

/-- A number is a minus or none and what is behind it. -/
theorem spanNumeral_cons (c : CodePoint) (s : Text) :
    spanNumeral (c :: s) = if c = '-' then spanUnsigned true s else spanUnsigned false (c :: s) := by
  by_cases hc : c = '-'
  · rw [if_pos hc, spanUnsigned, spanNumeral]
    simp only [if_pos hc]
    cases spanWhole s <;> rfl
  · rw [if_neg hc, spanUnsigned, spanNumeral]
    simp only [if_neg hc]
    cases spanWhole (c :: s) <;> rfl

/-- The parts of a number that are taken are parts of one, and nothing is lost. -/
theorem isWritten_of_spanUnsigned {negative : Bool} {s rest : Text} {n : Numeral}
    (h : spanUnsigned negative s = some (n, rest)) :
    n.negative = negative ∧ n.IsWritten ∧ s = n.whole ++ (n.fraction ++ (n.exponent ++ rest)) := by
  obtain ⟨⟨whole, behind⟩, hwhole, heq⟩ := Option.map_eq_some_iff.1 h
  cases heq
  obtain ⟨hw, happend⟩ := isWhole_of_spanWhole hwhole
  obtain ⟨hf, hfappend⟩ := isFraction_of_spanFraction behind
  obtain ⟨he, heappend⟩ := isExponent_of_spanExponent (spanFraction behind).2
  refine ⟨rfl, ⟨hw, hf, he⟩, ?_⟩
  dsimp only
  rw [← heappend, ← hfappend, happend]

/-- The number in front of a text is written as the grammar has it, and its text is what was taken. -/
theorem isWritten_of_spanNumeral {s rest : Text} {n : Numeral} (h : spanNumeral s = some (n, rest)) :
    n.IsWritten ∧ s = n.token ++ rest := by
  cases s with
  | nil => cases h
  | cons c s =>
    rw [spanNumeral_cons] at h
    split at h
    · next hminus =>
      obtain ⟨hnegative, hwritten, rfl⟩ := isWritten_of_spanUnsigned h
      refine ⟨hwritten, ?_⟩
      rw [hminus, Numeral.token, hnegative]
      simp only [if_true, List.append_assoc]
      rfl
    · obtain ⟨hnegative, hwritten, happend⟩ := isWritten_of_spanUnsigned h
      refine ⟨hwritten, ?_⟩
      rw [happend, Numeral.token, hnegative]
      simp only [Bool.false_eq_true, if_false, List.append_assoc]
      rfl

/-- The parts of a written number are taken whole where an end stands behind it. -/
theorem spanUnsigned_append {n : Numeral} {rest : Text} (h : n.IsWritten) (hrest : Begins IsEnd rest) :
    spanUnsigned n.negative (n.whole ++ (n.fraction ++ (n.exponent ++ rest))) = some (n, rest) := by
  have hexponent : Begins (fun c => c.isAsciiDigit = false ∧ c ≠ '.') (n.exponent ++ rest) := by
    refine Begins.append ?_ (hrest.mono fun c hc => ⟨hc.not_mem_number.1, hc.not_mem_number.2.1⟩)
    rcases h.exponent with he | ⟨c, sign, digits, he, hc, -⟩
    · rw [he]
      exact begins_nil _
    · rw [he, begins_cons]
      rcases hc with rfl | rfl <;> decide
  have hfraction : Begins (fun c => c.isAsciiDigit = false) (n.fraction ++ (n.exponent ++ rest)) := by
    refine Begins.append ?_ (hexponent.mono fun c hc => hc.1)
    rcases h.fraction with hf | ⟨digits, hf, -⟩
    · rw [hf]
      exact begins_nil _
    · rw [hf, begins_cons]
      decide
  rw [spanUnsigned, spanWhole_append h.whole hfraction]
  simp only [Option.map_some, spanFraction_append h.fraction hexponent, spanExponent_append h.exponent hrest]

/-- A written number begins with a digit, or with a minus and a digit. -/
theorem Numeral.IsWritten.token_begins {n : Numeral} (h : n.IsWritten) :
    ∃ c rest, c.isAsciiDigit = true ∧ n.token = if n.negative then CodePoint.ofChar '-' :: c :: rest else c :: rest := by
  obtain ⟨c, rest, hwhole, hc⟩ := h.whole.begins
  refine ⟨c, rest ++ n.fraction ++ n.exponent, hc, ?_⟩
  rw [token, hwhole]
  cases n.negative <;> rfl

/-- A written number is taken whole where an end stands behind it. -/
theorem spanNumeral_token_append {n : Numeral} {rest : Text} (h : n.IsWritten) (hrest : Begins IsEnd rest) :
    spanNumeral (n.token ++ rest) = some (n, rest) := by
  have hspan := spanUnsigned_append h hrest
  obtain ⟨c, behind, hwhole, hc⟩ := h.whole.begins
  cases hnegative : n.negative with
  | true =>
    have htoken : n.token ++ rest = CodePoint.ofChar '-' :: (n.whole ++ (n.fraction ++ (n.exponent ++ rest))) := by
      rw [Numeral.token, hnegative]
      simp only [if_true, List.append_assoc]
      rfl
    rw [htoken, spanNumeral_cons, if_pos rfl, ← hnegative, hspan]
  | false =>
    have htoken : n.token ++ rest = n.whole ++ (n.fraction ++ (n.exponent ++ rest)) := by
      rw [Numeral.token, hnegative]
      simp only [Bool.false_eq_true, if_false, List.append_assoc]
      rfl
    have hminus : c ≠ '-' := fun h => not_sign_of_isAsciiDigit hc (.inr h)
    rw [htoken, hwhole, List.cons_append, spanNumeral_cons, if_neg hminus, ← List.cons_append, ← hwhole, ← hnegative, hspan]

/-- A written number is made of digits, signs, a point and the letter of an exponent. -/
theorem Numeral.IsWritten.mem_token {n : Numeral} {c : CodePoint} (h : n.IsWritten) (hc : c ∈ n.token) :
    c.isAsciiDigit = true ∨ c = '-' ∨ c = '+' ∨ c = '.' ∨ c = 'e' ∨ c = 'E' := by
  have hsign : ∀ {s : Text}, s = [] ∨ s = "+" ∨ s = "-" → c ∈ s → c = '-' ∨ c = '+' := by
    rintro s (rfl | rfl | rfl) hc
    · cases hc
    · exact .inr (List.mem_singleton.1 hc)
    · exact .inl (List.mem_singleton.1 hc)
  rw [token, List.mem_append, List.mem_append, List.mem_append] at hc
  rcases hc with ((hc | hc) | hc) | hc
  · cases hnegative : n.negative with
    | true =>
      rw [hnegative] at hc
      exact .inr (.inl (List.mem_singleton.1 hc))
    | false =>
      rw [hnegative] at hc
      cases hc
  · rcases h.whole with hwhole | ⟨hwhole, -⟩
    · rw [hwhole] at hc
      rw [List.mem_singleton.1 hc]
      exact .inl (by decide)
    · exact .inl (hwhole.2 c hc)
  · rcases h.fraction with hf | ⟨digits, hf, hd⟩
    · rw [hf] at hc
      cases hc
    · rw [hf, List.mem_cons] at hc
      rcases hc with rfl | hc
      · simp
      · exact .inl (hd.2 c hc)
  · rcases h.exponent with he | ⟨e, sign, digits, hexp, he, hs, hd⟩
    · rw [he] at hc
      cases hc
    · rw [hexp, List.mem_cons, List.mem_append] at hc
      rcases hc with rfl | hc | hc
      · rcases he with rfl | rfl <;> simp
      · rcases hsign hs hc with rfl | rfl <;> simp
      · exact .inl (hd.2 c hc)

/-- The value of a number is what it means. -/
theorem Numeral.value_eq_ok_iff (n : Numeral) (v : Value) : n.value = .ok v ↔ n.Means v := by
  have hvalue : n.value =
      if n.fraction = [] ∧ n.exponent = [] then
        if n.whole.length > digitLimit then .error (.tooManyDigits n.whole.length)
        else .ok (.int (signed n.negative (digitsValue n.whole)))
      else if n.nearest.isFinite then .ok (.float n.nearest) else .error (.outOfRange n.token) := rfl
  rw [hvalue]
  constructor
  · intro h
    split at h
    · next hint =>
      split at h
      · cases h
      · next hlong =>
        cases h
        exact .int hint (by omega)
    · next hfloat =>
      split at h
      · next hfinite =>
        cases h
        exact .float hfloat hfinite
      · cases h
  · intro h
    cases h with
    | int hint hshort =>
      have hlimit : ¬ n.whole.length > digitLimit := by omega
      exact (if_pos hint).trans (if_neg hlimit)
    | float hfloat hfinite => exact (if_neg hfloat).trans (if_pos hfinite)

/-! ## Words -/

/-- Every word begins with a letter, or with a minus and a letter. -/
theorem word_begins : ∀ w ∈ wordValues, ∃ (d : CodePoint) (t : Text), d.isAsciiDigit = false ∧ d ≠ '-' ∧
    (w.1 = d :: t ∨ w.1 = CodePoint.ofChar '-' :: d :: t) := by
  simp only [wordValues, List.forall_mem_cons]
  refine ⟨⟨_, _, ?_, ?_, .inl rfl⟩, ⟨_, _, ?_, ?_, .inl rfl⟩, ⟨_, _, ?_, ?_, .inl rfl⟩, ⟨_, _, ?_, ?_, .inl rfl⟩,
    ⟨_, _, ?_, ?_, .inl rfl⟩, ⟨_, _, ?_, ?_, .inr rfl⟩, List.forall_mem_nil _⟩ <;> decide

/-- A text that begins with a digit, or with a minus and a digit, begins with no word. -/
theorem readWord?_eq_none {c : CodePoint} {s t : Text} (negative : Bool) (hc : c.isAsciiDigit = true)
    (ht : t = if negative then CodePoint.ofChar '-' :: c :: s else c :: s) : readWord? t = none := by
  rw [readWord?, List.findSome?_eq_none_iff]
  intro w hw
  rw [Option.map_eq_none_iff, Option.eq_none_iff_forall_ne_some]
  intro rest hrest
  rw [dropPrefix?_eq_some_iff, ht] at hrest
  have hminus : CodePoint.isAsciiDigit '-' = false := by decide
  obtain ⟨d, u, hletter, hd, hword | hword⟩ := word_begins w hw
  · rw [hword, List.cons_append] at hrest
    cases negative with
    | true =>
      injection hrest with heq
      exact hd heq.symm
    | false =>
      injection hrest with heq
      rw [heq, hletter] at hc
      cases hc
  · rw [hword, List.cons_append, List.cons_append] at hrest
    cases negative with
    | true =>
      injection hrest with _ hrest
      injection hrest with heq
      rw [heq, hletter] at hc
      cases hc
    | false =>
      injection hrest with heq
      rw [heq, hminus] at hc
      cases hc

/-- The word that is read in front of a text is one of the words, and nothing is lost. -/
theorem mem_wordValues_of_readWord? {s rest : Text} {r : Except Error Value} (h : readWord? s = some (r, rest)) :
    ∃ word, s = word ++ rest ∧ (word, r) ∈ wordValues := by
  obtain ⟨⟨word, value⟩, hw, hread⟩ := List.exists_of_findSome?_eq_some h
  obtain ⟨behind, hdrop, heq⟩ := Option.map_eq_some_iff.1 hread
  cases heq
  exact ⟨word, (dropPrefix?_eq_some_iff _ _ _).1 hdrop, hw⟩

/-- The word in front of a text, when it is a value, denotes it. -/
theorem denotes_of_readWord? {s rest : Text} {v : Value} (h : readWord? s = some (.ok v, rest)) :
    ∃ word, s = word ++ rest ∧ Denotes word v := by
  obtain ⟨word, happend, hw⟩ := mem_wordValues_of_readWord? h
  refine ⟨word, happend, ?_⟩
  simp only [wordValues, List.mem_cons, List.not_mem_nil, or_false] at hw
  rcases hw with heq | heq | heq | heq | heq | heq
  · cases heq
    exact .null
  · cases heq
    exact .bool true
  · cases heq
    exact .bool false
  · cases heq
  · cases heq
  · cases heq

/-! ## Scalars -/

/-- A scalar that is read denotes its value. -/
theorem denotes_of_readScalar {s rest : Text} {v : Value} (h : readScalar s = .ok (v, rest)) :
    ∃ token, s = token ++ rest ∧ Denotes token v := by
  unfold readScalar at h
  split at h
  · next w behind hword =>
    cases h
    exact denotes_of_readWord? hword
  · cases h
  · split at h
    · cases h
    · next n behind hspan =>
      obtain ⟨hwritten, happend⟩ := isWritten_of_spanNumeral hspan
      cases hvalue : n.value with
      | error e =>
        rw [hvalue] at h
        cases h
      | ok w =>
        rw [hvalue] at h
        cases h
        exact ⟨n.token, happend, .number hwritten ((n.value_eq_ok_iff _).1 hvalue)⟩

/-- The word of nothing is read as such, whatever stands behind it. -/
theorem readScalar_null (rest : Text) : readScalar (("null" : Text) ++ rest) = .ok (.null, rest) := rfl

/-- The word of a truth value is read as such, whatever stands behind it. -/
theorem readScalar_bool (b : Bool) (rest : Text) :
    readScalar ((if b then "true" else "false" : Text) ++ rest) = .ok (.bool b, rest) := by
  cases b <;> rfl

/-- A written number is read as its value where an end stands behind it. -/
theorem readScalar_token {n : Numeral} {rest : Text} (h : n.IsWritten) (hrest : Begins IsEnd rest) :
    readScalar (n.token ++ rest) = n.value.map fun v => (v, rest) := by
  obtain ⟨c, s, hc, htoken⟩ := h.token_begins
  have hword : readWord? (n.token ++ rest) = none := by
    refine readWord?_eq_none (s := s ++ rest) n.negative hc ?_
    rw [htoken]
    cases n.negative <;> rfl
  rw [readScalar, hword]
  simp only [spanNumeral_token_append h hrest]

/-- A written number that has a meaning is read as it where an end stands behind it. -/
theorem readScalar_number {n : Numeral} {v : Value} {rest : Text} (h : n.IsWritten) (hv : n.Means v) (hrest : Begins IsEnd rest) :
    readScalar (n.token ++ rest) = .ok (v, rest) := by
  rw [readScalar_token h hrest, (n.value_eq_ok_iff v).2 hv]
  rfl

end Json

end Admission
