import Admission.Proofs.Acceptance
import Admission.Proofs.NumberText

/-!
# The commands of an office that pass

Which payloads pass the gate of offices, told member by member and without the fields, kinds and rules of its schema. Every field
of the schema is of one of four forms, and each form admits the raw values that are told for it.
-/

namespace Admission

namespace Payload

/-- A raw value that a text of an office can have: a boolean, a number, of which an integer has to be short, or a text that is
neither blank nor too long when it is stripped. -/
def IsOfficeText : Value → Prop
  | .bool _ | .float _ => True
  | .int n => (Text.ofInt n).length ≤ 100
  | .str s => 1 ≤ s.strip.length ∧ s.strip.length ≤ 100
  | .null | .date _ | .list _ | .dict _ => False

/-- A raw value that a text can have which an office need not have: also null, and a blank text. -/
def IsOptionalOfficeText : Value → Prop
  | .null | .bool _ | .float _ => True
  | .int n => (Text.ofInt n).length ≤ 100
  | .str s => s.strip.length ≤ 100
  | .date _ | .list _ | .dict _ => False

/-- A raw value that gives a day: the year, the month and the day of a date in a list, or a text that is not blank and that the
pattern reads when it is stripped. -/
def IsDay (pattern : Text) : Value → Prop
  | .list items => ∃ d : Date, items = [.int d.year, .int d.month, .int d.day]
  | .str s => s.isBlank = false ∧ ∃ d, DatePattern.read pattern s.strip = .ok d
  | .null | .bool _ | .int _ | .float _ | .date _ | .dict _ => False

/-- A raw value that gives an integer above zero: a whole number of either kind, or a text that spells an integer in no more digits
than one may have. -/
def IsPositiveInteger : Value → Prop
  | .int n => 0 < n
  | .float x => ∃ n, x.toInt? = some n ∧ 0 < n
  | .str s =>
    ∃ sign digits : Text, s.strip.Spells sign digits ∧ digits.length ≤ digitLimit ∧ 0 < Text.intOf sign digits
  | .null | .bool _ | .date _ | .list _ | .dict _ => False

/-! ## Texts -/

/-- A text passes the rules of a text that has to be there exactly when it is neither blank nor too long. -/
theorem passes_textRules_iff (s : Text) :
    (∀ r ∈ Schema.textRules, ¬ r.Stops (.str s) ∧ ¬ r.Fails (.str s)) ↔ s.isBlank = false ∧ s.length ≤ 100 := by
  simp [Schema.textRules, Schema.officeMaxLength, Rule.Stops, Rule.Fails, Text.isBlank]

/-- A text passes the rule of a text that need not be there exactly when it is not too long. -/
theorem passes_maxLength_iff (s : Text) :
    (∀ r ∈ [Rule.maxLength Schema.officeMaxLength], ¬ r.Stops (.str s) ∧ ¬ r.Fails (.str s)) ↔ s.length ≤ 100 := by
  simp [Schema.officeMaxLength, Rule.Stops, Rule.Fails]

/-- What a raw value is read as when it is read as a text. -/
theorem exists_readValue_string_iff (pattern name : Text) (raw : Value) (P : Value → Prop) :
    (∃ v, FieldKind.string.readValue pattern name raw = .ok v ∧ P v) ↔
      match raw with
      | .null => P .null
      | .bool b => P (.str (if b then "true" else "false"))
      | .int n => Text.IsShort n ∧ P (.str (Text.ofInt n))
      | .float x => P (.str x.text)
      | .str s => P (.str s.strip)
      | .date _ | .list _ | .dict _ => False := by
  cases raw with
  | int n => by_cases hshort : Text.IsShort n <;> simp [FieldKind.readValue, textOf, Except.map, hshort]
  | _ => simp [FieldKind.readValue, textOf, Except.map]

/-- An integer whose text is not too long for an office is short. -/
theorem isShort_of_length_le {n : Int} (h : (Text.ofInt n).length ≤ 100) : Text.IsShort n :=
  Text.isShort_of_length_ofInt (h.trans (by decide))

/-- What a text that an office has to have admits. -/
theorem admits_text_iff {f : Field} (hkind : f.kind = .string) (hrules : f.rules = Schema.textRules) (pattern : Text)
    (raw : Value) : f.Admits pattern raw ↔ IsOfficeText raw := by
  unfold Field.Admits
  rw [hkind, hrules, exists_readValue_string_iff]
  cases raw with
  | null => simp [Schema.textRules, Rule.Fails, IsOfficeText]
  | bool b => cases b <;> simp only [IsOfficeText, iff_true] <;> decide
  | int n =>
    simp only [passes_textRules_iff, Text.isBlank_ofInt, true_and, IsOfficeText]
    exact and_iff_right_of_imp isShort_of_length_le
  | float x =>
    simp only [passes_textRules_iff, IsOfficeText, iff_true]
    exact ⟨x.isBlank_text, x.length_text_le.trans (by decide)⟩
  | str s =>
    simp only [passes_textRules_iff, IsOfficeText, ← Bool.not_eq_true, Text.isBlank_strip_iff, Nat.one_le_iff_ne_zero, ne_eq,
      List.length_eq_zero_iff]
  | _ => simp [IsOfficeText]

/-- What a text that an office need not have admits. -/
theorem admits_optionalText_iff {f : Field} (hkind : f.kind = .string) (hrules : f.rules = [.maxLength Schema.officeMaxLength])
    (pattern : Text) (raw : Value) : f.Admits pattern raw ↔ IsOptionalOfficeText raw := by
  unfold Field.Admits
  rw [hkind, hrules, exists_readValue_string_iff]
  cases raw with
  | null => simp [Rule.Fails, Rule.Stops, IsOptionalOfficeText]
  | bool b => cases b <;> simp only [IsOptionalOfficeText, iff_true] <;> decide
  | int n =>
    simp only [passes_maxLength_iff, IsOptionalOfficeText]
    exact and_iff_right_of_imp isShort_of_length_le
  | float x =>
    simp only [passes_maxLength_iff, IsOptionalOfficeText, iff_true]
    exact x.length_text_le.trans (by decide)
  | str s => simp only [passes_maxLength_iff, IsOptionalOfficeText]
  | _ => simp [IsOptionalOfficeText]

/-! ## Days and integers -/

/-- What a day that an office has to have admits. -/
theorem admits_day_iff {f : Field} (hkind : f.kind = .date) (hrules : f.rules = [.notNull]) (pattern : Text) (raw : Value) :
    f.Admits pattern raw ↔ IsDay pattern raw := by
  have hday : f.Admits pattern raw ↔ ∃ d, dateOf (.ok pattern) f.name raw = .ok (some d) := by
    unfold Field.Admits FieldKind.readValue
    rw [hkind, hrules]
    cases dateOf (.ok pattern) f.name raw with
    | error e => simp [Except.map]
    | ok r => cases r <;> simp [Except.map, Rule.Stops, Rule.Fails]
  simp only [hday, dateOf_eq_ok_some_iff]
  cases raw <;> simp [IsDay]

/-- What an integer above zero admits. -/
theorem admits_positive_iff {f : Field} (hkind : f.kind = .integer) (hrules : f.rules = Schema.positiveRules) (pattern : Text)
    (raw : Value) : f.Admits pattern raw ↔ IsPositiveInteger raw := by
  have hpositive : f.Admits pattern raw ↔ ∃ n, integerOf f.name raw = .ok (some n) ∧ 0 < n := by
    unfold Field.Admits FieldKind.readValue
    rw [hkind, hrules]
    cases integerOf f.name raw with
    | error e => simp [Except.map]
    | ok r => cases r <;> simp [Except.map, Schema.positiveRules, Rule.Stops, Rule.Fails, Rule.stop?, Value.isComparable]
  simp only [hpositive, integerOf_eq_ok_some_iff]
  cases raw with
  | str s =>
    simp only [Text.readSigned_eq_ok_iff, IsPositiveInteger]
    constructor
    · rintro ⟨n, ⟨sign, digits, hs, hshort, rfl⟩, hpos⟩
      exact ⟨sign, digits, hs, hshort, hpos⟩
    · rintro ⟨sign, digits, hs, hshort, hpos⟩
      exact ⟨_, ⟨sign, digits, hs, hshort, rfl⟩, hpos⟩
  | _ => simp [IsPositiveInteger]

end Payload

/-! ## The office -/

namespace Schema

/-- The members that an office has to have when it is created. -/
def officeRequired : List Text :=
  ["name", "openingDate", "cin", "roc", "incorporatedDate", "companyName", "companyStatus", "registrationAddress", "funds",
    "registrationNumber"]

/-- The texts of an office. The status of the company is one only when the office is created. -/
def officeTexts : Mode → List Text
  | .create => ["name", "cin", "roc", "companyName", "registrationAddress", "companyStatus"]
  | .update => ["name", "cin", "roc", "companyName", "registrationAddress"]

/-- The days of an office. The status of the company is one when the office is updated. -/
def officeDays : Mode → List Text
  | .create => ["openingDate", "incorporatedDate"]
  | .update => ["openingDate", "incorporatedDate", "companyStatus"]

/-- The integers of an office. -/
def officeAmounts : List Text := ["parentId", "funds", "registrationNumber"]

/-- Every field of an office has one of four forms. -/
theorem form_of_mem_office (mode : Mode) : ∀ f ∈ office.fields mode,
    (f.name ∈ officeTexts mode ∧ f.kind = .string ∧ f.rules = textRules) ∨
      (f.name ∈ officeDays mode ∧ f.kind = .date ∧ f.rules = [.notNull]) ∨
      (f.name ∈ officeAmounts ∧ f.kind = .integer ∧ f.rules = positiveRules) ∨
      (f.name = "externalId" ∧ f.kind = .string ∧ f.rules = [.maxLength officeMaxLength]) := by
  cases mode <;> decide

/-- Every text of an office has a field of its form. -/
theorem exists_text (mode : Mode) : ∀ name ∈ officeTexts mode,
    ∃ f ∈ office.fields mode, f.name = name ∧ f.kind = .string ∧ f.rules = textRules := by
  cases mode <;> decide

theorem exists_day (mode : Mode) : ∀ name ∈ officeDays mode,
    ∃ f ∈ office.fields mode, f.name = name ∧ f.kind = .date ∧ f.rules = [.notNull] := by
  cases mode <;> decide

theorem exists_amount (mode : Mode) : ∀ name ∈ officeAmounts,
    ∃ f ∈ office.fields mode, f.name = name ∧ f.kind = .integer ∧ f.rules = positiveRules := by
  cases mode <;> decide

theorem exists_externalId (mode : Mode) :
    ∃ f ∈ office.fields mode, f.name = "externalId" ∧ f.kind = .string ∧ f.rules = [.maxLength officeMaxLength] := by
  cases mode <;> decide

/-- What an office has to have when it is created has a field that has to be there and asks for a value. -/
theorem exists_required : ∀ name ∈ officeRequired,
    ∃ f ∈ office.fields .create, f.name = name ∧ f.requiredOnCreate = true ∧ (.notNull ∈ f.rules ∨ .notBlank ∈ f.rules) := by
  decide

theorem mem_officeRequired : ∀ f ∈ office.fields .create, f.requiredOnCreate = true → f.name ∈ officeRequired := by
  decide

theorem office_name_ne_nil (mode : Mode) : ∀ f ∈ office.fields mode, f.name ≠ [] := by
  cases mode <;> decide

end Schema

namespace Payload

/-- A payload that passes the gate of offices. It has no other members than those of an office, and its context can be read. When
it creates an office, it has all the members that an office has to have. Every member that is there has a value that the member can
have. -/
structure PassesOffice (mode : Mode) (defaults : Defaults) (payload : Payload) : Prop where
  supported : ∀ name ∈ payload.names, name ∈ Schema.officeMembers
  dateFormat : IsContext (payload.get dateFormatName)
  locale : IsContext (payload.get localeName)
  required : mode = .create → ∀ name ∈ Schema.officeRequired, name ∈ payload.names
  texts : ∀ name ∈ Schema.officeTexts mode, name ∈ payload.names → IsOfficeText (payload.get name)
  days : ∀ name ∈ Schema.officeDays mode, name ∈ payload.names →
    IsDay (payload.effectiveFormat defaults) (payload.get name)
  amounts : ∀ name ∈ Schema.officeAmounts, name ∈ payload.names → IsPositiveInteger (payload.get name)
  externalId : IsOptionalOfficeText (payload.get "externalId")

end Payload

namespace Gate

/-- A command passes the gate of offices exactly when its text gives a payload that does: the gate lets through what
`Payload.PassesOffice` tells, whatever the date format and the locale that hold by default. -/
theorem validate_office_eq_ok_iff (defaults : Defaults) (mode : Mode) (text : Option Text) :
    ({ schema := Schema.office, defaults } : Gate).validate mode text = .ok () ↔
      ∃ payload, Payload.read text = .ok payload ∧ payload.PassesOffice mode defaults := by
  rw [validate_eq_ok_iff_admits (Schema.office_name_ne_nil mode)]
  refine exists_congr fun payload => and_congr_right fun _ => ?_
  constructor
  · rintro ⟨hsound, hadmits⟩
    refine ⟨hsound.supported, hsound.dateFormat, hsound.locale, ?_, ?_, ?_, ?_, ?_⟩
    · rintro rfl name hname
      obtain ⟨f, hf, rfl, hrequired, hasks⟩ := Schema.exists_required name hname
      have hne := (hadmits f hf (Or.inl ⟨rfl, hrequired⟩)).ne_null hasks
      exact Classical.byContradiction fun hnot => hne (Members.get_of_not_mem hnot)
    · intro name hname hmem
      obtain ⟨f, hf, rfl, hkind, hrules⟩ := Schema.exists_text mode name hname
      exact (Payload.admits_text_iff hkind hrules _ _).1 (hadmits f hf (Or.inr hmem))
    · intro name hname hmem
      obtain ⟨f, hf, rfl, hkind, hrules⟩ := Schema.exists_day mode name hname
      exact (Payload.admits_day_iff hkind hrules _ _).1 (hadmits f hf (Or.inr hmem))
    · intro name hname hmem
      obtain ⟨f, hf, rfl, hkind, hrules⟩ := Schema.exists_amount mode name hname
      exact (Payload.admits_positive_iff hkind hrules _ _).1 (hadmits f hf (Or.inr hmem))
    · obtain ⟨f, hf, hname, hkind, hrules⟩ := Schema.exists_externalId mode
      rw [← hname]
      by_cases hmem : f.name ∈ payload.names
      · exact (Payload.admits_optionalText_iff hkind hrules _ _).1 (hadmits f hf (Or.inr hmem))
      · rw [Members.get_of_not_mem hmem]
        trivial
  · intro h
    refine ⟨⟨h.supported, h.dateFormat, h.locale⟩, ?_⟩
    intro f hf hchecks
    have hmem : f.name ∈ payload.names := by
      rcases hchecks with ⟨rfl, hrequired⟩ | hmem
      · exact h.required rfl f.name (Schema.mem_officeRequired f hf hrequired)
      · exact hmem
    rcases Schema.form_of_mem_office mode f hf with ⟨hname, hkind, hrules⟩ | ⟨hname, hkind, hrules⟩ | ⟨hname, hkind, hrules⟩ |
      ⟨hname, hkind, hrules⟩
    · exact (Payload.admits_text_iff hkind hrules _ _).2 (h.texts f.name hname hmem)
    · exact (Payload.admits_day_iff hkind hrules _ _).2 (h.days f.name hname hmem)
    · exact (Payload.admits_positive_iff hkind hrules _ _).2 (h.amounts f.name hname hmem)
    · refine (Payload.admits_optionalText_iff hkind hrules _ _).2 ?_
      rw [hname]
      exact h.externalId

end Gate

end Admission
