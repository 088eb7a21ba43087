import Admission.DatePattern.Reading

/-!
# Directives of a format

A format names the parts of a date by directives, a percent sign and a letter each. The directives of the format of a pattern
are the letters of its parts, in order, so a part is named twice in the pattern exactly when its directive stands twice in the
format.
-/

namespace Admission.DatePattern

/-- The code points behind the percent signs of a format, from left to right; a doubled percent sign gives the percent sign. -/
def directives : Text → List CodePoint
  | [] => []
  | [_] => []
  | c :: d :: rest => if c = '%' then d :: directives rest else directives (d :: rest)

/-- The letters of the directives that name a part of a date. -/
def directiveLetters : List CodePoint := ['Y', 'y', 'm', 'd', 'b', 'B']

/-- The format of a pattern uses a directive for a part of a date more than once. -/
def RepeatsDirective (pattern : Text) : Prop := ∃ c ∈ directiveLetters, 1 < (directives (format pattern)).count c

instance (pattern : Text) : Decidable (RepeatsDirective pattern) :=
  inferInstanceAs (Decidable (∃ c ∈ directiveLetters, 1 < (directives (format pattern)).count c))

/-- What a piece adds to the directives of a format. -/
def Piece.directive? : Piece → Option CodePoint
  | .part p => some p.letter
  | .literal c => if c = '%' then some '%' else none

theorem letter_inj (p q : DatePart) : p.letter = q.letter ↔ p = q := by
  cases p <;> cases q <;> decide

theorem letter_ne_percent (p : DatePart) : p.letter ≠ '%' := by
  cases p <;> decide

/-- The letters of the parts are the letters of the directives. -/
theorem mem_directiveLetters_iff (c : CodePoint) : c ∈ directiveLetters ↔ ∃ p : DatePart, p.letter = c := by
  constructor
  · intro h
    simp only [directiveLetters, List.mem_cons, List.not_mem_nil, or_false] at h
    rcases h with rfl | rfl | rfl | rfl | rfl | rfl
    · exact ⟨.year, rfl⟩
    · exact ⟨.shortYear, rfl⟩
    · exact ⟨.month, rfl⟩
    · exact ⟨.day, rfl⟩
    · exact ⟨.shortMonthName, rfl⟩
    · exact ⟨.monthName, rfl⟩
  · rintro ⟨p, rfl⟩
    cases p <;> simp [directiveLetters, DatePart.letter]

/-- A piece adds its directive to those of what stands behind it. -/
theorem directives_format_append (p : Piece) (rest : Text) :
    directives (p.format ++ rest) = (p.directive?).toList ++ directives rest := by
  cases p with
  | part p => simp [Piece.format, Piece.directive?, directives]
  | literal c =>
    by_cases h : c = '%'
    · simp only [Piece.format, Piece.directive?, if_pos h]
      rfl
    · simp only [Piece.format, Piece.directive?, if_neg h]
      cases rest with
      | nil => rfl
      | cons d rest => exact if_neg h

/-- The directives of a format are those of the pieces of the pattern. -/
theorem directives_format (pattern : Text) :
    directives (format pattern) = (pieces pattern).filterMap Piece.directive? := by
  unfold format
  induction pieces pattern with
  | nil => rfl
  | cons p rest ih =>
    rw [List.flatMap_cons, directives_format_append, ih, List.filterMap_cons]
    cases p.directive? <;> rfl

/-- A part stands among the parts of a pattern as often as its directive stands in the format. -/
theorem count_directives (pattern : Text) (p : DatePart) :
    (directives (format pattern)).count p.letter = (parts pattern).count p := by
  rw [directives_format]
  unfold parts
  induction pieces pattern with
  | nil => rfl
  | cons q rest ih =>
    cases q with
    | part q =>
      simp only [List.filterMap_cons, Piece.directive?, List.count_cons, ih, beq_iff_eq, letter_inj]
    | literal c =>
      by_cases h : c = '%'
      · simp [Piece.directive?, h, ih, (letter_ne_percent p).symm]
      · simp [Piece.directive?, h, ih]

/-- A format uses a directive more than once exactly when the pattern names a part more than once. -/
theorem repeatsDirective_iff (pattern : Text) : RepeatsDirective pattern ↔ ¬ (parts pattern).Nodup := by
  rw [List.nodup_iff_count]
  constructor
  · rintro ⟨c, hc, hcount⟩ h
    obtain ⟨p, rfl⟩ := (mem_directiveLetters_iff c).1 hc
    rw [count_directives] at hcount
    exact absurd (h p) (by omega)
  · intro h
    obtain ⟨p, hp⟩ := Classical.not_forall.1 h
    refine ⟨p.letter, (mem_directiveLetters_iff _).2 ⟨p, rfl⟩, ?_⟩
    rw [count_directives]
    omega

end Admission.DatePattern
