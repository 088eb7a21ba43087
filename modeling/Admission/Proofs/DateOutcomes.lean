import Admission.Proofs.Extraction
import Admission.Proofs.NumberText
import Admission.Proofs.Structure

/-!
# How reading a date can end

A field that is read as a date gives a date, or is malformed, told with its own name and raw value. Three faults escape this rule: a
pattern whose format uses a directive twice reads no text at all (`dateField_of_text`), a part beyond the machine integers is
refused before the calendar is asked, and a list that cannot be written is not told either (`dateField_of_list`).
-/

namespace Admission.Payload

/-! ## Texts -/

/-- A text that is not blank is read as a date or malformed under every date format whose format uses no directive more than once. Under
every other one it is neither: the reading ends in a fault that no client is told. -/
theorem dateField_of_text (defaults : Defaults) (payload : Payload) (name s : Text) (hname : name ≠ [])
    (hcontext : IsContext (payload.get dateFormatName)) (hvalue : payload.get name = .str s) (hblank : s.isBlank = false) :
    (¬ DatePattern.RepeatsDirective (payload.effectiveFormat defaults) →
        (∃ d, payload.dateField defaults name = .ok (some d)) ∨
          payload.dateField defaults name = .error (.rejected (.malformedField name (.str s) "date"))) ∧
      (DatePattern.RepeatsDirective (payload.effectiveFormat defaults) →
        payload.dateField defaults name = .error .repeatedPart) := by
  rw [dateField_eq hname, dateFormat_eq defaults hcontext, hvalue]
  constructor
  · intro hformat
    exact dateOf_text_outcome hformat hblank name
  · intro hrepeats
    have hleaks : Leaks (payload.effectiveFormat defaults) .date (.str s) .repeatedPart := .repeatedReading hblank hrepeats
    have hread : FieldKind.date.readValue (payload.effectiveFormat defaults) name (.str s) = .error .repeatedPart := hleaks.readValue
    exact (map_eq_error_iff _ _ _).1 hread

/-- The month is named once in digits and once more behind the date, in a payload with a date that is written so. -/
def monthTwice : Payload := [("opened", .str "01/02/2024 (2)"), ("dateFormat", .str " dd/MM/yyyy (M)")]

/-- The number and the name of the month are two parts, and the day is one that its month does not have. -/
def noSuchDay : Payload := [("dateFormat", .str "d.MM.yy (MMMM)"), ("opened", .str "30.02.24 (February)")]

/-- A month that is told twice in digits ends the reading; one that is told in digits and by its name leaves a field that is a date or
malformed. -/
theorem dateField_month_told_twice :
    monthTwice.dateField {} "opened" = .error .repeatedPart ∧
      ((∃ d, noSuchDay.dateField {} "opened" = .ok (some d)) ∨
        noSuchDay.dateField {} "opened" = .error (.rejected (.malformedField "opened" (.str "30.02.24 (February)") "date"))) := by
  have htwice : DatePattern.RepeatsDirective (monthTwice.effectiveFormat {}) := by decide
  have honce : ¬ DatePattern.RepeatsDirective (noSuchDay.effectiveFormat {}) := by decide
  constructor
  · exact (dateField_of_text {} monthTwice "opened" _ (by decide) (.inr ⟨_, rfl⟩) rfl (by decide)).2 htwice
  · exact (dateField_of_text {} noSuchDay "opened" _ (by decide) (.inr ⟨_, rfl⟩) rfl (by decide)).1 honce

/-- A pattern that names the day twice: a text that is no date is neither read nor malformed. -/
theorem dateField_day_named_twice :
    Payload.dateField {} [("f", .str "x"), ("dateFormat", .str "dd dd")] "f" = .error .repeatedPart ∧
      ¬ ((∃ d, Payload.dateField {} [("f", .str "x"), ("dateFormat", .str "dd dd")] "f" = .ok (some d)) ∨
        Payload.dateField {} [("f", .str "x"), ("dateFormat", .str "dd dd")] "f" =
          .error (.rejected (.malformedField "f" (.str "x") "date"))) := by
  have hread : Payload.dateField {} [("f", .str "x"), ("dateFormat", .str "dd dd")] "f" = .error .repeatedPart := by rfl
  refine ⟨hread, ?_⟩
  rw [hread]
  rintro (⟨d, hd⟩ | hmalformed)
  · cases hd
  · cases hmalformed

/-! ## Lists -/

/-- Reading a list as a date ends in the fault of a wide part exactly when it is three integers of which one is too wide. -/
theorem exists_dateOfParts_overflow_iff (name : Text) (items : List Value) :
    (∃ side, dateOfParts name items = .error (.partOverflow side)) ↔ IsWideDate (.list items) := by
  constructor
  · rintro ⟨side, hside⟩
    rcases @dateOfParts_error [] _ _ _ hside with hmalformed | hleaks
    · exact absurd hmalformed.symm (malformed_ne_partOverflow _ _ _ _)
    · cases hleaks with
      | wideDate wide => exact ⟨_, _, _, rfl, (exists_findSome?_iff _).1 ⟨_, wide⟩⟩
  · rintro ⟨y, m, d, hitems, hwide⟩
    cases hitems
    obtain ⟨side, hside⟩ := (exists_findSome?_iff _).2 hwide
    refine ⟨side, ?_⟩
    simp only [dateOfParts, dateParts?, hside]

/-- Every other fault of a list is that of a malformed one, which has no part too wide and is not the parts of a date. -/
theorem dateOfParts_eq_error_iff (name : Text) (items : List Value) (e : Fault) (he : ∀ side, e ≠ .partOverflow side) :
    dateOfParts name items = .error e ↔
      ¬ IsWideDate (.list items) ∧ (∀ d : Date, items ≠ [.int d.year, .int d.month, .int d.day]) ∧
        malformed name (.list items) .date = e := by
  rw [← exists_dateOfParts_overflow_iff name]
  simp only [ne_eq, ← dateOfParts_eq_ok_iff name]
  constructor
  · intro h
    rcases @dateOfParts_error [] _ _ _ h with rfl | hleaks
    · rw [h]
      exact ⟨fun ⟨side, hside⟩ => he side (Except.error.inj hside), nofun, rfl⟩
    · cases hleaks with
      | wideDate wide => exact absurd rfl (he _)
  · rintro ⟨hnarrow, hnodate, rfl⟩
    -- A list is a date, malformed or too wide, and the first and the last are excluded here.
    cases hread : dateOfParts name items with
    | ok d => exact absurd hread (hnodate d)
    | error e =>
      rcases @dateOfParts_error [] _ _ _ hread with rfl | hleaks
      · rfl
      · cases hleaks with
        | wideDate wide => exact absurd ⟨_, hread⟩ hnarrow

/-- A list is read as a date exactly when it is the year, the month and the day of one, as integers. Three integers of which one is
beyond the machine integers end the reading in a fault that no client is told. Every other list is malformed when it can be written,
and otherwise, with an integer of too many digits in it or too deep a nesting, ends the reading as that does. -/
theorem dateField_of_list (defaults : Defaults) (payload : Payload) (name : Text) (items : List Value) (hname : name ≠ [])
    (hvalue : payload.get name = .list items) :
    (∀ d : Date, payload.dateField defaults name = .ok (some d) ↔ items = [.int d.year, .int d.month, .int d.day]) ∧
      ((∃ side, payload.dateField defaults name = .error (.partOverflow side)) ↔ IsWideDate (.list items)) ∧
      (payload.dateField defaults name = .error (.rejected (.malformedField name (.list items) "date")) ↔
        ¬ IsWideDate (.list items) ∧ (∀ d : Date, items ≠ [.int d.year, .int d.month, .int d.day]) ∧
          (Value.list items).unwritable? = none) ∧
      (∀ cause, payload.dateField defaults name = .error (.unwritable cause) ↔
        ¬ IsWideDate (.list items) ∧ (∀ d : Date, items ≠ [.int d.year, .int d.month, .int d.day]) ∧
          (Value.list items).unwritable? = some cause) := by
  have hread : payload.dateField defaults name = (dateOfParts name items).map some := by
    rw [dateField_eq hname, hvalue]
    rfl
  simp only [hread, map_eq_error_iff]
  refine ⟨fun d => ?_, exists_dateOfParts_overflow_iff name items, ?_, fun cause => ?_⟩
  · rw [← dateOfParts_eq_ok_iff name, map_eq_ok_iff]
    simp
  · rw [dateOfParts_eq_error_iff name items _ (by simp), ← malformed_eq_rejected_iff name]
    rfl
  · rw [dateOfParts_eq_error_iff name items _ (by simp), ← malformed_eq_unwritable_iff name _ .date]

/-- Four lists: the leap day of a leap year, the leap day of a year without one, a year beyond the machine integers, and a year alone
that has more digits than are written. -/
def fourLists : Payload :=
  [("leap", .list [.int 2024, .int 2, .int 29]), ("common", .list [.int 2023, .int 2, .int 29]),
    ("wide", .list [.int 2147483648, .int 1, .int 1]), ("long", .list [.int Text.leastLong])]

/-- The first of the lists is read, the second is malformed, the third ends in the fault of a wide part, and the fourth in that of a list
that is not written. -/
theorem dateField_four_lists :
    fourLists.dateField {} "leap" = .ok (some ⟨2024, 2, 29, by decide, by decide, by decide⟩) ∧
      fourLists.dateField {} "common" =
        .error (.rejected (.malformedField "common" (.list [.int 2023, .int 2, .int 29]) "date")) ∧
      (∃ side, fourLists.dateField {} "wide" = .error (.partOverflow side)) ∧
      fourLists.dateField {} "long" = .error (.unwritable .longInteger) := by
  have hnarrow : ¬ IsWideDate (.list [.int 2023, .int 2, .int 29]) := by
    rintro ⟨y, m, d, hitems, n, hn, hwide⟩
    cases hitems
    simp only [List.mem_cons, List.not_mem_nil, or_false] at hn
    omega
  have hnodate : ∀ d : Date, [Value.int 2023, .int 2, .int 29] ≠ [.int d.year, .int d.month, .int d.day] := by
    intro d hitems
    simp only [List.cons.injEq, Value.int.injEq] at hitems
    have hyear : d.year = 2023 := by omega
    have hmonth : d.month = 2 := by omega
    have hdays : d.day ≤ daysInMonth 2023 2 := hyear ▸ hmonth ▸ d.day_mem.2
    have hfebruary : daysInMonth 2023 2 = 28 := rfl
    omega
  have hwide : IsWideDate (.list [.int 2147483648, .int 1, .int 1]) := ⟨_, _, _, rfl, 2147483648, by simp, by decide⟩
  have hone : ¬ IsWideDate (.list [.int Text.leastLong]) := by
    rintro ⟨y, m, d, hitems, -⟩
    cases hitems
  have hlong : (Value.list [.int Text.leastLong]).unwritable? = some .longInteger := by
    simp [Value.unwritable?, Value.unwritableWithin?, Value.unwritableItem?, nestingLimit, Text.not_isShort_leastLong]
  refine ⟨?_, ?_, ?_, ?_⟩
  · exact ((dateField_of_list {} fourLists "leap" _ (by decide) rfl).1 _).2 rfl
  · exact (dateField_of_list {} fourLists "common" _ (by decide) rfl).2.2.1.2 ⟨hnarrow, hnodate, rfl⟩
  · exact (dateField_of_list {} fourLists "wide" _ (by decide) rfl).2.1.2 hwide
  · exact ((dateField_of_list {} fourLists "long" _ (by decide) rfl).2.2.2 _).2 ⟨hone, fun _ => by simp, hlong⟩

/-- A year beyond the machine integers in a list that can be written: the field is neither a date nor malformed. -/
theorem dateField_wide_year :
    Payload.dateField {} [("f", .list [.int 2147483648, .int 1, .int 1])] "f" = .error (.partOverflow .aboveMaximum) ∧
      (∀ d : Date, [Value.int 2147483648, .int 1, .int 1] ≠ [.int d.year, .int d.month, .int d.day]) ∧
      (Value.list [.int 2147483648, .int 1, .int 1]).unwritable? = none ∧
      Payload.dateField {} [("f", .list [.int 2147483648, .int 1, .int 1])] "f" ≠
        .error (.rejected (.malformedField "f" (.list [.int 2147483648, .int 1, .int 1]) "date")) := by
  have hread : Payload.dateField {} [("f", .list [.int 2147483648, .int 1, .int 1])] "f" = .error (.partOverflow .aboveMaximum) := by
    rfl
  refine ⟨hread, ?_, rfl, ?_⟩
  · intro d hitems
    simp only [List.cons.injEq, Value.int.injEq] at hitems
    have hyear := d.year_mem.2
    omega
  · rw [hread]
    nofun

end Admission.Payload
