import Admission.Text.Blank

/-!
# Trimmed texts and the parts of a text

A text is what trimming leaves of it, between code points of the class that is trimmed (`exists_trim`). What is left neither begins nor
ends with the class (`head?_trim`, `getLast?_trim`), and nothing else stands so in the text (`trim_append`). The parts of a text are
those without the separator that are joined to it (`not_mem_of_mem_splitOn`, `splitOn_join`).
-/

namespace Admission.Text

variable {inClass : CodePoint → Bool} {before s after : Text}

/-! ## Trimming -/

theorem dropWhile_of_head? (hs : ∀ c ∈ s.head?, inClass c = false) : s.dropWhile inClass = s := by
  cases s with
  | nil => rfl
  | cons c rest => exact List.dropWhile_cons_of_neg (by simp [hs c rfl])

/-- A class is dropped in front of a text up to where the text begins. -/
theorem dropWhile_append_of_head? (hbefore : ∀ c ∈ before, inClass c = true) (hs : ∀ c ∈ s.head?, inClass c = false) :
    (before ++ s).dropWhile inClass = s := by
  rw [List.dropWhile_append_of_pos hbefore, dropWhile_of_head? hs]

/-- Trimming takes a class away around a text that neither begins nor ends with it. -/
theorem trim_append (hbefore : ∀ c ∈ before, inClass c = true) (hhead : ∀ c ∈ s.head?, inClass c = false)
    (hlast : ∀ c ∈ s.getLast?, inClass c = false) (hafter : ∀ c ∈ after, inClass c = true) : (before ++ (s ++ after)).trim inClass = s := by
  rw [trim]
  cases s with
  | nil =>
    -- Nothing but the class is there, and all of it is dropped in front.
    have hall : (before ++ after).all inClass = true := List.all_eq_true.2 (List.forall_mem_append.2 ⟨hbefore, hafter⟩)
    rw [List.nil_append, (dropWhile_eq_nil_iff_all inClass _).2 hall]
    rfl
  | cons c rest =>
    have hfront : ∀ d ∈ (c :: rest ++ after).head?, inClass d = false := hhead
    have hback : ∀ d ∈ (c :: rest).reverse.head?, inClass d = false := by
      rw [List.head?_reverse]
      exact hlast
    have hreverse : ∀ d ∈ after.reverse, inClass d = true := fun d hd => hafter d (List.mem_reverse.1 hd)
    rw [dropWhile_append_of_head? hbefore hfront, List.reverse_append, dropWhile_append_of_head? hreverse hback,
      List.reverse_reverse]

theorem trim_of_forall (h : ∀ c ∈ s, inClass c = false) : s.trim inClass = s := by
  have hnone : ∀ c ∈ ([] : Text), inClass c = true := by simp
  simpa using trim_append hnone (fun c hc => h c (List.mem_of_mem_head? hc)) (fun c hc => h c (List.mem_of_mem_getLast? hc)) hnone

/-- What stands behind the class in front of a text is what trimming leaves, and more of the class. -/
theorem exists_dropWhile_eq_trim_append (inClass : CodePoint → Bool) (s : Text) :
    ∃ after, s.dropWhile inClass = s.trim inClass ++ after ∧ ∀ c ∈ after, inClass c = true := by
  refine ⟨((s.dropWhile inClass).reverse.takeWhile inClass).reverse, ?_, ?_⟩
  · rw [trim, ← List.reverse_append, List.takeWhile_append_dropWhile, List.reverse_reverse]
  · intro c hc
    exact List.all_eq_true.1 List.all_takeWhile c (List.mem_reverse.1 hc)

theorem exists_trim (inClass : CodePoint → Bool) (s : Text) :
    ∃ before after, s = before ++ (s.trim inClass ++ after) ∧ (∀ c ∈ before, inClass c = true) ∧ ∀ c ∈ after, inClass c = true := by
  obtain ⟨after, hdrop, hafter⟩ := exists_dropWhile_eq_trim_append inClass s
  refine ⟨s.takeWhile inClass, after, ?_, List.all_eq_true.1 List.all_takeWhile, hafter⟩
  rw [← hdrop, List.takeWhile_append_dropWhile]

theorem head?_dropWhile_eq_false (inClass : CodePoint → Bool) (s : Text) :
    ∀ c ∈ (s.dropWhile inClass).head?, inClass c = false := by
  intro c hc
  have hstop := List.head?_dropWhile_not inClass s
  rw [Option.mem_def.1 hc] at hstop
  exact hstop

theorem head?_trim (inClass : CodePoint → Bool) (s : Text) : ∀ c ∈ (s.trim inClass).head?, inClass c = false := by
  intro c hc
  obtain ⟨after, hdrop, -⟩ := exists_dropWhile_eq_trim_append inClass s
  refine head?_dropWhile_eq_false inClass s c ?_
  rw [hdrop, List.head?_append, Option.mem_def.1 hc]
  rfl

theorem getLast?_trim (inClass : CodePoint → Bool) (s : Text) : ∀ c ∈ (s.trim inClass).getLast?, inClass c = false := by
  rw [trim, List.getLast?_reverse]
  exact head?_dropWhile_eq_false inClass _

/-! ## Stripping -/

/-- A text neither begins nor ends with a blank. -/
structure IsTrimmed (s : Text) : Prop where
  head : ∀ c ∈ s.head?, c.isBlank = false
  last : ∀ c ∈ s.getLast?, c.isBlank = false

/-- Stripping takes blanks away around a text that neither begins nor ends with one. -/
theorem IsTrimmed.strip_append (h : s.IsTrimmed) (hbefore : before.isBlank = true) (hafter : after.isBlank = true) :
    (before ++ (s ++ after)).strip = s :=
  trim_append (List.all_eq_true.1 hbefore) h.head h.last (List.all_eq_true.1 hafter)

theorem IsTrimmed.strip (h : s.IsTrimmed) : s.strip = s := by
  have hnone : Text.isBlank [] = true := rfl
  simpa using h.strip_append hnone hnone

theorem isTrimmed_strip (s : Text) : s.strip.IsTrimmed := ⟨head?_trim _ s, getLast?_trim _ s⟩

theorem exists_strip (s : Text) :
    ∃ before after : Text, s = before ++ (s.strip ++ after) ∧ before.isBlank = true ∧ after.isBlank = true := by
  obtain ⟨before, after, hs, hbefore, hafter⟩ := exists_trim CodePoint.isBlank s
  exact ⟨before, after, hs, List.all_eq_true.2 hbefore, List.all_eq_true.2 hafter⟩

theorem strip_ne_nil_iff (s : Text) : s.strip ≠ [] ↔ s.isBlank = false := by
  rw [ne_eq, strip_eq_nil_iff, Bool.not_eq_true]

/-- What is left when a text is stripped is blank only when nothing is left. -/
theorem isBlank_strip_iff (s : Text) : s.strip.isBlank = true ↔ s.strip = [] := by
  rw [← strip_eq_nil_iff, (isTrimmed_strip s).strip]

/-! ## Parts -/

/-- A text in front of a separator that does not occur in it is a part. -/
theorem splitOn_append_cons {separator : CodePoint} {s : Text} (h : separator ∉ s) (rest : Text) :
    splitOn separator (s ++ separator :: rest) = s :: splitOn separator rest := by
  induction s with
  | nil =>
    rw [List.nil_append, splitOn]
    split
    · next hnil => exact absurd hnil (splitOn_ne_nil separator rest)
    · next part parts hparts => rw [if_pos rfl, hparts]
  | cons c s ih =>
    rw [List.cons_append, splitOn, ih (List.not_mem_of_not_mem_cons h)]
    simp [(List.ne_of_not_mem_cons h).symm]

/-- A text in which the separator does not occur has one part. -/
theorem splitOn_of_not_mem {separator : CodePoint} {s : Text} (h : separator ∉ s) : splitOn separator s = [s] := by
  induction s with
  | nil => rfl
  | cons c s ih =>
    rw [splitOn, ih (List.not_mem_of_not_mem_cons h)]
    simp [(List.ne_of_not_mem_cons h).symm]

/-- Parts in which the separator does not occur are the parts of what they are joined to. -/
theorem splitOn_join {separator : CodePoint} {parts : List Text} (hne : parts ≠ []) (h : ∀ part ∈ parts, separator ∉ part) :
    splitOn separator (join [separator] parts) = parts := by
  induction parts with
  | nil => exact absurd rfl hne
  | cons part parts ih =>
    obtain ⟨hpart, hparts⟩ := List.forall_mem_cons.1 h
    cases parts with
    | nil => exact splitOn_of_not_mem hpart
    | cons next parts =>
      have hjoin : join [separator] (part :: next :: parts) = part ++ separator :: join [separator] (next :: parts) := by
        simp [join]
      rw [hjoin, splitOn_append_cons hpart, ih (List.cons_ne_nil _ _) hparts]

/-- The separator occurs in no part of a text. -/
theorem not_mem_of_mem_splitOn {separator : CodePoint} {s part : Text} (h : part ∈ splitOn separator s) : separator ∉ part := by
  induction s generalizing part with
  | nil =>
    rw [splitOn, List.mem_singleton] at h
    rw [h]
    exact List.not_mem_nil
  | cons c rest ih =>
    rw [splitOn] at h
    split at h
    · next hnil => exact absurd hnil (splitOn_ne_nil separator rest)
    · next first parts hparts =>
      rw [hparts] at ih
      split at h
      · rcases List.mem_cons.1 h with rfl | h
        · exact List.not_mem_nil
        · exact ih h
      · next hc =>
        rcases List.mem_cons.1 h with rfl | h
        · exact List.not_mem_cons_of_ne_of_not_mem (Ne.symm hc) (ih List.mem_cons_self)
        · exact ih (List.mem_cons_of_mem _ h)

end Admission.Text
