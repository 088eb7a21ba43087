import Admission.Proofs.Extraction
import Admission.Proofs.FirstFit
import Admission.Proofs.PartSpellings

/-!
# Dates in the default pattern

Where no other date format holds, dates are written as year, month and day with hyphens. What the matcher reads by this pattern is
wider than it looks: digits of any script in two places, a month or a day of one digit, and a space in front of such a day. All of
it is one grammar (`SpellsDate`), and `dateField_default_iff` says that a text is a date exactly when it is in the grammar and its
numbers are a day of the calendar.
-/

namespace Admission

namespace DatePattern

/-! ## The grammar -/

/-- A text spells a year, a month and a day with hyphens between them: the year in four digits of any scripts, the month and the day
as a month and a day may be spelled. -/
def SpellsDate (y m d : Nat) (s : Text) : Prop :=
  ∃ year month day : Text, s = year ++ CodePoint.ofChar '-' :: (month ++ CodePoint.ofChar '-' :: day) ∧
    year.SpellsDigits 4 y ∧ SpellsMonth m month ∧ SpellsDay d day

/-- The elements of the default pattern. -/
def defaultElements : List Element :=
  [.part .year, .literal (CodePoint.ofChar '-'), .part .month, .literal (CodePoint.ofChar '-'), .part .day]

/-- A text that the default pattern takes whole spells the parts that are found. A hyphen has no other letter case, so nothing else
stands in its place. -/
theorem exists_spellsDate_of_firstFit {s : Text} {found : List Found} (h : firstFit defaultElements s = some (found, [])) :
    ∃ y m d, found = [(.year, some y), (.month, some m), (.day, some d)] ∧ SpellsDate y m d s := by
  have hcase : CodePoint.hasCase (CodePoint.ofChar '-') = false := by decide
  -- From the front to the end: each element leaves what the next one fits.
  obtain ⟨_, _, _, hyear, hbehindYear, rfl⟩ := exists_of_firstFit_part h
  obtain ⟨_, rfl, hfromMonth⟩ := eq_cons_of_firstFit_literal hcase hbehindYear
  obtain ⟨_, _, _, hmonth, hbehindMonth, rfl⟩ := exists_of_firstFit_part hfromMonth
  obtain ⟨_, rfl, hfromDay⟩ := eq_cons_of_firstFit_literal hcase hbehindMonth
  obtain ⟨_, _, _, hday, hend, rfl⟩ := exists_of_firstFit_part hfromDay
  cases hend
  obtain ⟨y, year, rfl, rfl, hspellsYear⟩ := exists_of_mem_ways_year hyear
  obtain ⟨m, month, rfl, rfl, hspellsMonth⟩ := exists_of_mem_ways_month hmonth
  obtain ⟨d, day, rfl, rfl, hspellsDay⟩ := exists_of_mem_ways_day hday
  exact ⟨y, m, d, rfl, year, month, day, by rw [List.append_nil], hspellsYear, hspellsMonth, hspellsDay⟩

/-- A text that spells a year, a month and a day fits the default pattern at once: a hyphen stands behind the month, and nothing behind
the day. -/
theorem SpellsDate.fitsAtOnce {y m d : Nat} {s : Text} (h : SpellsDate y m d s) :
    FitsAtOnce defaultElements [(.year, some y), (.month, some m), (.day, some d)] s := by
  obtain ⟨year, month, day, rfl, hyear, hmonth, hday⟩ := h
  -- From the end to the front: what a part takes first depends on what stands behind it.
  have hyphen : NoDigit (CodePoint.ofChar '-' :: day) := (Json.begins_cons _ _ _).2 (by decide)
  have hend : (partWays .day day).head? = some (some d, []) := by
    have hfirst := head?_ways_day hday (Json.begins_nil _)
    rwa [List.append_nil] at hfirst
  have hfromDay : FitsAtOnce [.part .day] [(.day, some d)] day := .cons (head?_ways_part hend) .nil
  have hfromMonth : FitsAtOnce [.part .month, .literal (CodePoint.ofChar '-'), .part .day] [(.month, some m), (.day, some d)]
      (month ++ CodePoint.ofChar '-' :: day) :=
    .cons (head?_ways_part (head?_ways_month hmonth hyphen)) (.cons (head?_ways_literal _ _) hfromDay)
  exact .cons (head?_ways_part (head?_ways_year hyear _)) (.cons (head?_ways_literal _ _) hfromMonth)

/-- A text is read by the default pattern as a date exactly when it spells its year, month and day. -/
theorem read_default_iff (s : Text) (d : Date) : read "yyyy-MM-dd" s = .ok d ↔ SpellsDate d.year d.month d.day s := by
  have helements : elements (pieces "yyyy-MM-dd") = defaultElements := by decide
  have hnodup : (parts "yyyy-MM-dd").Nodup := by decide
  have hfound (y m n : Nat) : Parts.ofFound [(.year, some y), (.month, some m), (.day, some n)] = some ⟨y, m, n⟩ := rfl
  rw [read_eq_ok_iff, helements]
  constructor
  · rintro ⟨-, found, hfit, hparts⟩
    obtain ⟨y, m, n, rfl, hspells⟩ := exists_spellsDate_of_firstFit hfit
    rw [hfound] at hparts
    cases hparts
    exact hspells
  · intro hspells
    exact ⟨hnodup, _, hspells.fitsAtOnce.firstFit, hfound _ _ _⟩

-- A digit that is left behind the day does not send the matcher back to a shorter month or day.
example : read "yyyy-MM-dd" "2024-1- 9" = .ok ⟨2024, 1, 9, by decide, by decide, by decide⟩ := by rfl
example : read "yyyy-MM-dd" "2024-01-123" = .error .unreadable := by rfl

end DatePattern

namespace Payload

open DatePattern

/-- A text that is not blank is a date by the default pattern exactly when, stripped, it spells the year, the month and the day of the
date. Every other one is malformed, and told as it was before it was stripped. -/
theorem dateField_default_iff (defaults : Defaults) (payload : Payload) (name s : Text) (hname : name ≠ [])
    (hformat : payload.dateFormat defaults = .ok "yyyy-MM-dd") (hvalue : payload.get name = .str s) (hblank : s.isBlank = false) :
    (∀ d : Date, payload.dateField defaults name = .ok (some d) ↔ SpellsDate d.year d.month d.day s.strip) ∧
      ((∀ d : Date, ¬ SpellsDate d.year d.month d.day s.strip) →
        payload.dateField defaults name = .error (.rejected (.malformedField name (.str s) "date"))) := by
  have hread (d : Date) : payload.dateField defaults name = .ok (some d) ↔ SpellsDate d.year d.month d.day s.strip := by
    rw [dateField_eq hname, hformat, hvalue, dateOf_eq_ok_some_iff, ← read_default_iff]
    exact and_iff_right hblank
  refine ⟨hread, fun hnone => ?_⟩
  have honce : ¬ RepeatsDirective "yyyy-MM-dd" := by decide
  have houtcome : (∃ d, payload.dateField defaults name = .ok (some d)) ∨
      payload.dateField defaults name = .error (.rejected (.malformedField name (.str s) "date")) := by
    rw [dateField_eq hname, hformat, hvalue]
    exact dateOf_text_outcome honce hblank name
  rcases houtcome with ⟨d, hd⟩ | hmalformed
  · exact absurd ((hread d).1 hd) (hnone d)
  · exact hmalformed

/-- Two texts under the default pattern: a leap day with its year and the units of its day in Arabic digits, a month without padding and
blanks at both ends, and a leap day of a year without one. -/
def hyphenedDays : Payload := [("leap", .str " \u0662\u0660\u0662\u0664-2-2\u0669\t"), ("common", .str "2023-02-29")]

/-- The first of the leap days is read, and the second is malformed. -/
theorem dateField_hyphened_days :
    hyphenedDays.dateField {} "leap" = .ok (some ⟨2024, 2, 29, by decide, by decide, by decide⟩) ∧
      hyphenedDays.dateField {} "common" = .error (.rejected (.malformedField "common" (.str "2023-02-29") "date")) := by
  have hspells : SpellsDate 2024 2 29 (Text.strip " \u0662\u0660\u0662\u0664-2-2\u0669\t") := by
    have hday : SpellsDay 29 "2\u0669" :=
      ⟨by decide, .inr (.inr (.inr ⟨by decide, CodePoint.ofNat 0x0669, by decide, by decide⟩))⟩
    exact ⟨"\u0662\u0660\u0662\u0664", "2", "2\u0669", by decide, ⟨by decide, by decide, by decide⟩, ⟨by decide, .inl (by decide)⟩, hday⟩
  have hnone : ∀ d : Date, ¬ SpellsDate d.year d.month d.day (Text.strip "2023-02-29") := by
    intro d hd
    have hunreadable : DatePattern.read "yyyy-MM-dd" (Text.strip "2023-02-29") = .error .unreadable := by rfl
    rw [← read_default_iff, hunreadable] at hd
    cases hd
  constructor
  · exact ((dateField_default_iff {} hyphenedDays "leap" _ (by decide) rfl rfl (by decide)).1 _).2 hspells
  · exact (dateField_default_iff {} hyphenedDays "common" _ (by decide) rfl rfl (by decide)).2 hnone

end Payload

end Admission
