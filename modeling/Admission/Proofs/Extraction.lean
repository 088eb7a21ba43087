import Admission.Payload.Field
import Admission.Proofs.Directives
import Admission.Proofs.SpelledInteger
import Admission.Proofs.TextParts
import Admission.Proofs.Traversal

/-!
# How reading a field can end

A field of a payload whose context can be read is read from its raw value alone (`FieldKind.readValue`). Reading ends with a
value, with the rejection of this very field, or with one of three faults that no client is told (`Leaks`): an integer in too
many digits, a date whose parts are too wide, and a date text under a format that uses a directive twice.
-/

namespace Admission

theorem Date.day_le (d : Date) : d.day ≤ 31 := by
  have := d.day_mem.2
  unfold daysInMonth at this
  split at this <;> (try split at this) <;> omega

/-! ## Reading a raw value -/

/-- A raw value read as a kind, dates by a pattern; nothing reads as null. -/
def FieldKind.readValue (kind : FieldKind) (pattern name : Text) (raw : Value) : Except Fault Value :=
  match kind with
  | .string => (Payload.textOf name raw).map fun r => r.elim .null .str
  | .integer => (Payload.integerOf name raw).map fun r => r.elim .null .int
  | .date => (Payload.dateOf (.ok pattern) name raw).map fun r => r.elim .null .date

namespace Payload

/-- A field with a name is read from its raw value, by the date format of the payload. -/
theorem extract_eq_readValue {defaults : Defaults} {payload : Payload} {pattern name : Text} (kind : FieldKind)
    (hname : name ≠ []) (hformat : payload.dateFormat defaults = .ok pattern) :
    payload.extract defaults kind name = kind.readValue pattern name (payload.get name) := by
  have hcheck : checkName name = .ok () := by rw [checkName, if_neg hname]
  cases kind <;>
    simp [extract, FieldKind.readValue, textField, integerField, dateField, hcheck, hformat, bind, Except.bind]

theorem dateField_eq {name : Text} (hname : name ≠ []) (defaults : Defaults) (payload : Payload) :
    payload.dateField defaults name = dateOf (payload.dateFormat defaults) name (payload.get name) := by
  rw [dateField, checkName, if_neg hname]
  rfl

/-! ## The faults that no client is told -/

/-- A text that, stripped, spells an integer in more digits than one may have. -/
def IsLongInteger (raw : Value) : Prop :=
  ∃ s sign digits : Text, raw = .str s ∧ s.strip.Spells sign digits ∧ digitLimit < digits.length

/-- A list of three integers of which one is beyond the machine integers of 32 bits. -/
def IsWideDate (raw : Value) : Prop :=
  ∃ y m d : Int, raw = .list [.int y, .int m, .int d] ∧ ∃ n ∈ [y, m, d], n < -2147483648 ∨ 2147483647 < n

/-- A text that is not blank, under a pattern whose format uses a directive more than once. -/
def IsRepeatedReading (pattern : Text) (raw : Value) : Prop :=
  ∃ s : Text, raw = .str s ∧ s.isBlank = false ∧ DatePattern.RepeatsDirective pattern

/-- A raw value read as a kind ends in a fault that no client is told. -/
inductive Leaks (pattern : Text) : FieldKind → Value → Fault → Prop where
  | longInteger {s sign digits : Text} (spells : s.strip.Spells sign digits) (long : digitLimit < digits.length) :
    Leaks pattern .integer (.str s) (.tooManyDigits digits.length)
  | wideDate {y m d : Int} {side : PartOverflow} (wide : [y, m, d].findSome? partOverflow? = some side) :
    Leaks pattern .date (.list [.int y, .int m, .int d]) (.partOverflow side)
  | repeatedReading {s : Text} (notBlank : s.isBlank = false) (repeats : DatePattern.RepeatsDirective pattern) :
    Leaks pattern .date (.str s) .repeatedPart

/-- A part of a date is too wide exactly when it is beyond the machine integers of 32 bits. -/
theorem partOverflow?_ne_none_iff (n : Int) : partOverflow? n ≠ none ↔ n < -2147483648 ∨ 2147483647 < n := by
  unfold partOverflow?
  split
  · simp; omega
  · split
    · simp; omega
    · split
      · simp; omega
      · simp; omega

/-- One of the parts is too wide exactly when a first one is. -/
theorem exists_findSome?_iff (parts : List Int) :
    (∃ side, parts.findSome? partOverflow? = some side) ↔ ∃ n ∈ parts, n < -2147483648 ∨ 2147483647 < n := by
  rw [← Option.isSome_iff_exists, List.findSome?_isSome_iff]
  simp only [← partOverflow?_ne_none_iff, Option.isSome_iff_ne_none]

/-- The raw values that end a reading in such a fault. -/
theorem exists_leaks_iff (pattern : Text) (kind : FieldKind) (raw : Value) :
    (∃ e, Leaks pattern kind raw e) ↔
      (kind = .integer ∧ IsLongInteger raw) ∨ (kind = .date ∧ IsWideDate raw) ∨
        (kind = .date ∧ IsRepeatedReading pattern raw) := by
  constructor
  · rintro ⟨e, h⟩
    cases h with
    | longInteger spells long => exact Or.inl ⟨rfl, _, _, _, rfl, spells, long⟩
    | wideDate wide => exact Or.inr (Or.inl ⟨rfl, _, _, _, rfl, (exists_findSome?_iff _).1 ⟨_, wide⟩⟩)
    | repeatedReading notBlank repeats => exact Or.inr (Or.inr ⟨rfl, _, rfl, notBlank, repeats⟩)
  · rintro (⟨rfl, s, sign, digits, rfl, spells, long⟩ | ⟨rfl, y, m, d, rfl, wide⟩ | ⟨rfl, s, rfl, notBlank, repeats⟩)
    · exact ⟨_, .longInteger spells long⟩
    · obtain ⟨side, hside⟩ := (exists_findSome?_iff _).2 wide
      exact ⟨_, .wideDate hside⟩
    · exact ⟨_, .repeatedReading notBlank repeats⟩

theorem Leaks.ne_rejected {pattern : Text} {kind : FieldKind} {raw : Value} {e : Fault} (h : Leaks pattern kind raw e)
    (r : Rejection) : e ≠ .rejected r := by
  cases h <;> simp

/-! ## Each kind -/

/-- A list is a date in parts exactly when it is three integers. -/
theorem dateParts?_eq_some_iff (items : List Value) (y m d : Int) :
    dateParts? items = some (y, m, d) ↔ items = [.int y, .int m, .int d] := by
  constructor
  · intro h
    unfold dateParts? at h
    split at h
    · cases h
      rfl
    · cases h
  · rintro rfl
    rfl

theorem malformed_of_written {v : Value} (h : v.unwritable? = none) (name : Text) (kind : FieldKind) :
    malformed name v kind = .rejected (.malformedField name v kind.name) := by
  simp only [malformed, Fault.ofRejection, Rejection.fault?, h]
  rfl

theorem malformed_of_unwritable {v : Value} {cause : Unwritable} (h : v.unwritable? = some cause) (name : Text) (kind : FieldKind) :
    malformed name v kind = .unwritable cause := by
  simp only [malformed, Fault.ofRejection, Rejection.fault?, h]
  rfl

theorem malformed_of_not_isShort {n : Int} (h : ¬ Text.IsShort n) (name : Text) (kind : FieldKind) :
    malformed name (.int n) kind = .unwritable .longInteger := by
  have hcause : (Value.int n).unwritable? = some .longInteger := if_neg h
  exact malformed_of_unwritable hcause name kind

@[simp] theorem malformed_str (name s : Text) (kind : FieldKind) :
    malformed name (.str s) kind = .rejected (.malformedField name (.str s) kind.name) := rfl

theorem malformed_ne_partOverflow (name : Text) (v : Value) (kind : FieldKind) (side : PartOverflow) :
    malformed name v kind ≠ .partOverflow side := by
  cases h : v.unwritable? with
  | none =>
    rw [malformed_of_written h]
    nofun
  | some cause =>
    rw [malformed_of_unwritable h]
    nofun

/-- A value is told to be malformed exactly when it is written. -/
theorem malformed_eq_rejected_iff (name : Text) (v : Value) (kind : FieldKind) :
    malformed name v kind = .rejected (.malformedField name v kind.name) ↔ v.unwritable? = none := by
  cases h : v.unwritable? with
  | none => simp [malformed_of_written h]
  | some cause => simp [malformed_of_unwritable h]

theorem malformed_eq_unwritable_iff (name : Text) (v : Value) (kind : FieldKind) (cause : Unwritable) :
    malformed name v kind = .unwritable cause ↔ v.unwritable? = some cause := by
  cases h : v.unwritable? with
  | none => simp [malformed_of_written h]
  | some cause' => simp [malformed_of_unwritable h]

/-- A value that gives no text is malformed. -/
theorem textOf_error {name : Text} {raw : Value} {e : Fault} (h : textOf name raw = .error e) :
    e = malformed name raw .string := by
  cases raw with
  | int n =>
    -- Too long an integer is not written as the text of the field, and not in the message that would say so either.
    by_cases hshort : Text.IsShort n
    · simp [textOf, hshort] at h
    · rw [textOf, if_neg hshort, ← malformed_of_not_isShort hshort] at h
      exact (Except.error.inj h).symm
  | date d => exact (Except.error.inj h).symm
  | list items => exact (Except.error.inj h).symm
  | dict members => exact (Except.error.inj h).symm
  | null => cases h
  | bool b => cases h
  | float x => cases h
  | str s => cases h

/-- A value that gives no integer is malformed, or spells one in too many digits. -/
theorem integerOf_error {pattern name : Text} {raw : Value} {e : Fault} (h : integerOf name raw = .error e) :
    e = malformed name raw .integer ∨ Leaks pattern .integer raw e := by
  unfold integerOf at h
  split at h
  · cases h
  · cases h
  · split at h
    · cases h
    · cases h
      exact Or.inl rfl
  · next s =>
    split at h
    · cases h
    · split at h
      · cases h
      · next count hcount =>
        cases h
        obtain ⟨sign, digits, hs⟩ := Text.exists_spells_of_readSigned (by rw [hcount]; simp)
        rw [Text.readSigned_of_spells hs] at hcount
        split at hcount
        · next long =>
          cases hcount
          exact Or.inr (.longInteger hs long)
        · cases hcount
      · cases h
        exact Or.inl rfl
  · cases h
    exact Or.inl rfl

/-- A list that gives no date is malformed, or three integers of which one is too wide. -/
theorem dateOfParts_error {pattern name : Text} {items : List Value} {e : Fault} (h : dateOfParts name items = .error e) :
    e = malformed name (.list items) .date ∨ Leaks pattern .date (.list items) e := by
  unfold dateOfParts at h
  split at h
  · cases h
    exact Or.inl rfl
  · next y m d hparts =>
    obtain rfl := (dateParts?_eq_some_iff items y m d).1 hparts
    split at h
    · next side hside =>
      cases h
      exact Or.inr (.wideDate hside)
    · split at h
      · cases h
      · cases h
        exact Or.inl rfl

/-- No part of a date is too wide, and three integers give the date that has them as its parts. -/
theorem dateOfParts_eq_ok_iff (name : Text) (items : List Value) (d : Date) :
    dateOfParts name items = .ok d ↔ items = [.int d.year, .int d.month, .int d.day] := by
  constructor
  · intro h
    unfold dateOfParts at h
    split at h
    · cases h
    · next y m n hparts =>
      obtain rfl := (dateParts?_eq_some_iff items y m n).1 hparts
      split at h
      · cases h
      · split at h
        · next date hdate =>
          cases h
          obtain ⟨hyear, hmonth, hday⟩ := (Date.ofParts?_eq_some_iff _ _ _ _).1 hdate
          obtain ⟨hyearmem, hmonthmem, hdaymem⟩ := And.intro d.year_mem (And.intro d.month_mem d.day_mem)
          have hy : y = d.year := by omega
          have hm : m = d.month := by omega
          have hn : n = d.day := by omega
          rw [hy, hm, hn]
        · cases h
  · rintro rfl
    have hday := d.day_le
    have hnone : [(d.year : Int), (d.month : Int), (d.day : Int)].findSome? partOverflow? = none := by
      have hyear := d.year_mem
      have hmonth := d.month_mem
      rw [List.findSome?_eq_none_iff]
      intro n hn
      refine Classical.byContradiction fun hne => ?_
      have hwide := (partOverflow?_ne_none_iff n).1 hne
      simp only [List.mem_cons, List.not_mem_nil, or_false] at hn
      omega
    have hdate := (Date.ofParts?_eq_some_iff _ _ _ d).2 ⟨rfl, rfl, rfl⟩
    simp only [dateOfParts, dateParts?, hnone, Int.toNat_natCast, hdate]

/-- A value that gives no date is malformed, or ends in one of the faults of dates. -/
theorem dateOf_error {pattern name : Text} {raw : Value} {e : Fault} (h : dateOf (.ok pattern) name raw = .error e) :
    e = malformed name raw .date ∨ Leaks pattern .date raw e := by
  cases raw with
  | null => cases h
  | list items => exact dateOfParts_error ((map_eq_error_iff _ _ _).1 h)
  | str s =>
    by_cases hblank : s.strip = []
    · simp [dateOf, hblank] at h
    · simp only [dateOf, if_neg hblank] at h
      split at h
      · cases h
      · next hread =>
        cases h
        refine Or.inr (.repeatedReading ((Text.strip_ne_nil_iff s).1 hblank) ?_)
        rw [DatePattern.repeatsDirective_iff]
        intro hnodup
        simp only [DatePattern.read, not_true_eq_false, hnodup, if_false] at hread
        split at hread
        · split at hread <;> cases hread
        · cases hread
      · cases h
        exact Or.inl rfl
  | bool b => exact Or.inl (Except.error.inj h).symm
  | int n => exact Or.inl (Except.error.inj h).symm
  | float x => exact Or.inl (Except.error.inj h).symm
  | date d => exact Or.inl (Except.error.inj h).symm
  | dict members => exact Or.inl (Except.error.inj h).symm

/-! ## What is read -/

/-- The raw values that are read as an integer. -/
theorem integerOf_eq_ok_some_iff (name : Text) (raw : Value) (n : Int) :
    integerOf name raw = .ok (some n) ↔
      match raw with
      | .int m => m = n
      | .float x => x.toInt? = some n
      | .str s => s.strip.readSigned = .ok n
      | .null | .bool _ | .date _ | .list _ | .dict _ => False := by
  cases raw with
  | int m => simp [integerOf]
  | float x =>
    simp only [integerOf]
    split <;> simp_all
  | str s =>
    by_cases hblank : s.strip = []
    · have hread : Text.readSigned [] = .error .notInteger := rfl
      simp [integerOf, hblank, hread]
    · simp only [integerOf, if_neg hblank]
      split <;> simp_all
  | _ => simp [integerOf]

/-- The raw values that are read as a date. -/
theorem dateOf_eq_ok_some_iff (pattern name : Text) (raw : Value) (d : Date) :
    dateOf (.ok pattern) name raw = .ok (some d) ↔
      match raw with
      | .list items => items = [.int d.year, .int d.month, .int d.day]
      | .str s => s.isBlank = false ∧ DatePattern.read pattern s.strip = .ok d
      | .null | .bool _ | .int _ | .float _ | .date _ | .dict _ => False := by
  cases raw with
  | list items => simp [dateOf, map_eq_ok_iff, dateOfParts_eq_ok_iff]
  | str s =>
    by_cases hblank : s.strip = []
    · have := (Text.strip_eq_nil_iff s).1 hblank
      simp [dateOf, hblank, this]
    · have := (Text.strip_ne_nil_iff s).1 hblank
      simp only [dateOf, if_neg hblank, this, true_and]
      split <;> simp_all
  | _ => simp [dateOf]

/-- A text that is not blank, under a pattern whose format uses no directive more than once, is read as a date or is malformed. -/
theorem dateOf_text_outcome {pattern s : Text} (hformat : ¬ DatePattern.RepeatsDirective pattern) (hblank : s.isBlank = false)
    (name : Text) :
    (∃ d, dateOf (.ok pattern) name (.str s) = .ok (some d)) ∨
      dateOf (.ok pattern) name (.str s) = .error (malformed name (.str s) .date) := by
  cases hread : dateOf (.ok pattern) name (.str s) with
  | error e =>
    right
    rcases dateOf_error hread with rfl | hleak
    · rfl
    · cases hleak with
      | repeatedReading _ repeats => exact absurd repeats hformat
  | ok r =>
    left
    cases r with
    | some d => exact ⟨d, rfl⟩
    | none =>
      simp only [dateOf, if_neg ((Text.strip_ne_nil_iff s).2 hblank)] at hread
      split at hread <;> cases hread

/-! ## All kinds -/

/-- A raw value that is not read is malformed, or ends in a fault that no client is told. -/
theorem readValue_error {kind : FieldKind} {pattern name : Text} {raw : Value} {e : Fault}
    (h : kind.readValue pattern name raw = .error e) : e = malformed name raw kind ∨ Leaks pattern kind raw e := by
  cases kind with
  | string => exact Or.inl (textOf_error ((map_eq_error_iff _ _ _).1 h))
  | integer => exact integerOf_error ((map_eq_error_iff _ _ _).1 h)
  | date => exact dateOf_error ((map_eq_error_iff _ _ _).1 h)

/-- A raw value of the kinds told apart by `Leaks` is not read. -/
theorem Leaks.readValue {pattern name : Text} {kind : FieldKind} {raw : Value} {e : Fault} (h : Leaks pattern kind raw e) :
    kind.readValue pattern name raw = .error e := by
  cases h with
  | @longInteger s sign digits spells long =>
    simp only [FieldKind.readValue, integerOf, if_neg spells.text_ne_nil, Text.readSigned_of_spells spells, if_pos long]
    rfl
  | @wideDate y m d side wide =>
    simp only [FieldKind.readValue, dateOf, dateOfParts, dateParts?, wide]
    rfl
  | @repeatedReading s notBlank repeats =>
    have hnot := (DatePattern.repeatsDirective_iff pattern).1 repeats
    simp only [FieldKind.readValue, dateOf, if_neg ((Text.strip_ne_nil_iff s).2 notBlank), DatePattern.read, if_pos hnot]
    rfl

/-- An absent field is read as nothing: no absent field is malformed. -/
theorem readValue_null (kind : FieldKind) (pattern name : Text) : kind.readValue pattern name .null = .ok .null := by
  cases kind <;> rfl

end Payload

/-! ## What is extracted -/

/-- A value as which a field can be extracted. -/
def Value.IsExtracted : Value → Prop
  | .null | .int _ | .str _ | .date _ => True
  | .bool _ | .float _ | .list _ | .dict _ => False

/-- A field is extracted as nothing, a text, an integer or a date. -/
theorem Payload.isExtracted_of_extract {defaults : Defaults} {payload : Payload} {kind : FieldKind} {name : Text} {v : Value}
    (h : payload.extract defaults kind name = .ok v) : v.IsExtracted := by
  cases kind with
  | string =>
    obtain ⟨read, -, rfl⟩ := (map_eq_ok_iff _ _ _).1 h
    cases read <;> exact trivial
  | integer =>
    obtain ⟨read, -, rfl⟩ := (map_eq_ok_iff _ _ _).1 h
    cases read <;> exact trivial
  | date =>
    obtain ⟨read, -, rfl⟩ := (map_eq_ok_iff _ _ _).1 h
    cases read <;> exact trivial

end Admission
