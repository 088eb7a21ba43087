import Admission.Value.Display
import Mathlib.Tactic.SplitIfs

/-!
# Texts that can be encoded

A text is well formed when no surrogate stands in it. What the program writes by itself always is: the texts of numbers and dates,
and the literals of values, in which a surrogate is shown by its number. So a surrogate comes into a text of the program only
where a text of a payload is taken over as it is.
-/

namespace Admission

namespace Text

/-- A text is well formed when none of its code points is a surrogate. -/
theorem isWellFormed_iff (s : Text) : s.isWellFormed = true ↔ ∀ c ∈ s, c.isSurrogate = false := by
  simp [isWellFormed, List.all_eq_true]

theorem isWellFormed_append (s t : Text) : (s ++ t).isWellFormed = (s.isWellFormed && t.isWellFormed) :=
  List.all_append

theorem isWellFormed_cons (c : CodePoint) (s : Text) : isWellFormed (c :: s) = (!c.isSurrogate && s.isWellFormed) :=
  List.all_cons

/-- A text of code points of a well-formed one is well formed. -/
theorem isWellFormed_of_subset {s t : Text} (h : s ⊆ t) (ht : t.isWellFormed = true) : s.isWellFormed = true := by
  rw [isWellFormed_iff] at ht ⊢
  exact fun c hc => ht c (h hc)

theorem isSurrogate_ofChar (c : Char) : (CodePoint.ofChar c).isSurrogate = false := by
  have h := c.valid
  simp only [UInt32.isValidChar, Nat.isValidChar] at h
  have hval : (CodePoint.ofChar c).val = c.val.toNat := rfl
  rw [CodePoint.isSurrogate, decide_eq_false_iff_not, hval]
  omega

theorem isWellFormed_map_ofChar (cs : List Char) : isWellFormed (cs.map CodePoint.ofChar) = true := by
  rw [isWellFormed_iff]
  intro c hc
  obtain ⟨d, -, rfl⟩ := List.mem_map.1 hc
  exact isSurrogate_ofChar d

theorem isWellFormed_ofString (s : String) : (ofString s).isWellFormed = true :=
  isWellFormed_map_ofChar s.toList

/-- Several texts, one after another, are well formed when each is. -/
theorem isWellFormed_concat (parts : List Text) : (concat parts).isWellFormed = parts.all isWellFormed :=
  List.all_flatten

/-- What holds of a separator holds of all of joined texts when it holds of all of each. -/
theorem all_join {p : CodePoint → Bool} {separator : Text} (h : separator.all p = true) (parts : List Text) :
    (join separator parts).all p = parts.all fun s => s.all p := by
  induction parts with
  | nil => rfl
  | cons s rest ih =>
    cases rest with
    | nil => simp [join]
    | cons t rest =>
      have hjoin : join separator (s :: t :: rest) = s ++ separator ++ join separator (t :: rest) := rfl
      rw [hjoin, List.all_append, List.all_append, h, Bool.and_true, ih]
      rfl

/-- Texts with a well-formed separator between them are well formed when each is. -/
theorem isWellFormed_join {separator : Text} (h : separator.isWellFormed = true) (parts : List Text) :
    (join separator parts).isWellFormed = parts.all isWellFormed :=
  all_join h parts

/-! ## Numbers -/

theorem isWellFormed_ofNat (n : Nat) : (ofNat n).isWellFormed = true :=
  isWellFormed_map_ofChar (Nat.toDigits 10 n)

theorem isWellFormed_ofInt (n : Int) : (ofInt n).isWellFormed = true := by
  unfold ofInt
  split
  · rw [isWellFormed_cons, isSurrogate_ofChar, isWellFormed_ofNat]
    rfl
  · exact isWellFormed_ofNat _

theorem isWellFormed_replicate (n : Nat) (c : Char) : isWellFormed (List.replicate n (CodePoint.ofChar c)) = true := by
  rw [isWellFormed_iff]
  intro d hd
  rw [List.eq_of_mem_replicate hd]
  exact isSurrogate_ofChar c

theorem isWellFormed_padded (width n : Nat) : (padded width n).isWellFormed = true := by
  rw [padded, isWellFormed_append, isWellFormed_replicate, isWellFormed_ofNat]
  rfl

/-- A hexadecimal number is made of hexadecimal digits. -/
theorem exists_of_mem_hex {width n : Nat} {c : CodePoint} (h : c ∈ hex width n) : ∃ k < 16, c = hexDigit k := by
  induction width generalizing n with
  | zero => cases h
  | succ width ih =>
    rw [hex, List.mem_append, List.mem_singleton] at h
    rcases h with h | rfl
    · exact ih h
    · exact ⟨n % 16, Nat.mod_lt n (by decide), rfl⟩

theorem isWellFormed_hex (width n : Nat) : (hex width n).isWellFormed = true := by
  have hdigit : ∀ k < 16, (hexDigit k).isSurrogate = false := by decide
  rw [isWellFormed_iff]
  intro c hc
  obtain ⟨k, hk, rfl⟩ := exists_of_mem_hex hc
  exact hdigit k hk

/-! ## Quoted texts -/

/-- A surrogate is not printable. -/
theorem isPrintable_eq_false_of_isSurrogate {c : CodePoint} (h : c.isSurrogate = true) : c.isPrintable = false := by
  simp only [CodePoint.isSurrogate, decide_eq_true_eq] at h
  have hrange : (0xD7FC, 0xF8FF) ∈ CodePoint.unprintable := by decide +kernel
  rw [CodePoint.isPrintable, Bool.not_eq_false', Ranges.has, List.any_eq_true]
  refine ⟨_, hrange, ?_⟩
  simp only [Bool.and_eq_true, decide_eq_true_eq]
  omega

/-- A code point inside a quoted text is shown in a well-formed way, a surrogate by its number. -/
theorem isWellFormed_quotedCodePoint {quote : CodePoint} (hquote : quote.isSurrogate = false) (c : CodePoint) :
    (quotedCodePoint quote c).isWellFormed = true := by
  have hslash : (CodePoint.ofChar '\\').isSurrogate = false := isSurrogate_ofChar '\\'
  have hnumber : ∀ (letter : String) (width n : Nat), isWellFormed (ofString letter ++ hex width n) = true := by
    intro letter width n
    rw [isWellFormed_append, isWellFormed_ofString, isWellFormed_hex, Bool.and_self]
  unfold quotedCodePoint numbered
  split_ifs with hself hn hr ht hprintable hone htwo
  · have hplain : c.isSurrogate = false := by
      rcases hself with rfl | rfl
      · exact hquote
      · exact hslash
    simp [isWellFormed, hslash, hplain]
  · exact isWellFormed_ofString _
  · exact isWellFormed_ofString _
  · exact isWellFormed_ofString _
  · have hplain : c.isSurrogate = false := by
      refine Bool.eq_false_iff.2 fun hc => ?_
      rw [isPrintable_eq_false_of_isSurrogate hc] at hprintable
      cases hprintable
    simp [isWellFormed, hplain]
  · exact hnumber _ _ _
  · exact hnumber _ _ _
  · exact hnumber _ _ _

/-- A text in quotes is well formed, whatever stands in it. -/
theorem isWellFormed_quoted (s : Text) : s.quoted.isWellFormed = true := by
  have hquote : (quoteFor s).isSurrogate = false := by
    unfold quoteFor
    split <;> exact isSurrogate_ofChar _
  have hinside : isWellFormed (s.flatMap (quotedCodePoint (quoteFor s))) = true := by
    rw [isWellFormed, List.all_flatMap, List.all_eq_true]
    intro c _
    exact isWellFormed_quotedCodePoint hquote c
  rw [quoted, isWellFormed_cons, isWellFormed_append, isWellFormed_cons, hquote, hinside]
  rfl

end Text

/-! ## Values -/

/-- The text of a decimal is well formed. -/
theorem Binary64.Decimal.isWellFormed_text (form : DecimalLayout) (d : Decimal) : (d.text form).isWellFormed = true := by
  have htake : ∀ k, Text.isWellFormed ((Text.ofNat d.digits).take k) = true := fun k =>
    Text.isWellFormed_of_subset (List.take_subset k _) (Text.isWellFormed_ofNat _)
  have hdrop : ∀ k, Text.isWellFormed ((Text.ofNat d.digits).drop k) = true := fun k =>
    Text.isWellFormed_of_subset (List.drop_subset k _) (Text.isWellFormed_ofNat _)
  have hfraction : Text.isWellFormed (if (Text.ofNat d.digits).length ≤ 1 then [] else '.' :: (Text.ofNat d.digits).drop 1) = true := by
    split
    · rfl
    · rw [Text.isWellFormed_cons, hdrop]
      decide
  unfold text
  dsimp only
  split
  · split
    · simp only [Text.isWellFormed_append, Text.isWellFormed_ofNat, Text.isWellFormed_replicate, Text.isWellFormed_ofString,
        Bool.and_self]
    · split
      · simp only [Text.isWellFormed_append, htake, hdrop, Text.isWellFormed_ofString, Bool.and_self]
      · simp only [Text.isWellFormed_append, Text.isWellFormed_ofNat, Text.isWellFormed_replicate, Text.isWellFormed_ofString,
          Bool.and_self]
  · simp only [Text.isWellFormed_append, htake, hfraction, Text.isWellFormed_ofString, Text.isWellFormed_padded, Bool.and_self]

/-- The text of a binary number is well formed. -/
theorem Binary64.isWellFormed_text (x : Binary64) : x.text.isWellFormed = true := by
  have hsign : ∀ negative, (signText negative).isWellFormed = true := by decide
  cases x with
  | nan => decide
  | infinite negative => rw [text, Text.isWellFormed_append, hsign, Text.isWellFormed_ofString, Bool.and_self]
  | finite negative biased fraction =>
    rw [text, Text.isWellFormed_append, hsign, Bool.true_and]
    split
    · exact Decimal.isWellFormed_text _ _
    · exact Decimal.isWellFormed_text _ _

namespace Value

theorem isWellFormed_iso (d : Date) : d.iso.isWellFormed = true := by
  simp [Date.iso, Text.isWellFormed_concat, Text.isWellFormed_padded, Text.isWellFormed_ofString]

theorem isWellFormed_dateLiteral (d : Date) : (dateLiteral d).isWellFormed = true := by
  simp [dateLiteral, Text.isWellFormed_concat, Text.isWellFormed_ofNat, Text.isWellFormed_ofString]

mutual

/-- The literal of a value is well formed, whatever texts stand in it. -/
theorem isWellFormed_literal : ∀ v : Value, v.literal.isWellFormed = true
  | .null => by decide
  | .bool true => by decide
  | .bool false => by decide
  | .int n => Text.isWellFormed_ofInt n
  | .float x => x.isWellFormed_text
  | .str s => s.isWellFormed_quoted
  | .date d => isWellFormed_dateLiteral d
  | .list items => by
    rw [literal, Text.isWellFormed_append, Text.isWellFormed_append, Text.isWellFormed_join (by decide),
      isWellFormed_literals items, Text.isWellFormed_ofString, Text.isWellFormed_ofString]
    rfl
  | .dict members => by
    rw [literal, Text.isWellFormed_append, Text.isWellFormed_append, Text.isWellFormed_join (by decide),
      isWellFormed_memberLiterals members, Text.isWellFormed_ofString, Text.isWellFormed_ofString]
    rfl

theorem isWellFormed_literals : ∀ items : List Value, (literals items).all Text.isWellFormed = true
  | [] => rfl
  | v :: rest => by
    rw [literals, List.all_cons, isWellFormed_literal v, isWellFormed_literals rest]
    rfl

theorem isWellFormed_memberLiterals : ∀ members : List (Text × Value), (memberLiterals members).all Text.isWellFormed = true
  | [] => rfl
  | (name, v) :: rest => by
    rw [memberLiterals, List.all_cons, isWellFormed_memberLiterals rest, Text.isWellFormed_append, Text.isWellFormed_append,
      name.isWellFormed_quoted, isWellFormed_literal v, Text.isWellFormed_ofString]
    rfl

end

end Value

end Admission
