import Admission.Proofs.CreateAndUpdate
import Admission.Proofs.Json.Decimals
import Admission.Proofs.NumberText

/-!
# Normal forms

A field is read in many spellings: a text may have blanks around it, a number may stand for a text and a text for a number, and a
date is a text by some pattern or a list of its parts. What was read can stand in a payload in place of its spelling
(`Gate.normalised`). It is read as itself from there, by whatever date format, so a payload and its normal form are judged the same
(`Gate.examinePayload_normalised`).
-/

namespace Admission

/-! ## Texts that are stripped -/

namespace Text

/-- An integer is written without blanks. -/
theorem strip_ofInt (n : Int) : (ofInt n).strip = ofInt n := by
  have hdigits : ∀ c ∈ ofNat n.natAbs, c.isBlank = false := by
    intro c hc
    obtain ⟨d, hd, rfl⟩ := List.mem_map.1 hc
    exact isBlank_ofChar_of_isDigit (Nat.isDigit_of_mem_toDigits (by simp) (by simp) hd)
  refine trim_of_forall ?_
  intro c hc
  rw [ofInt] at hc
  split at hc
  · rcases List.mem_cons.1 hc with rfl | hc
    · rfl
    · exact hdigits c hc
  · exact hdigits c hc

end Text

/-- A binary number is written without blanks. -/
theorem Binary64.strip_text (x : Binary64) : x.text.strip = x.text := by
  refine Text.trim_of_forall ?_
  intro c hc
  cases x with
  | nan =>
    have hnone : ∀ c ∈ Binary64.nan.text, c.isBlank = false := by decide
    exact hnone c hc
  | infinite negative =>
    have hnone : ∀ c ∈ (Binary64.infinite negative).text, c.isBlank = false := by
      cases negative <;> decide
    exact hnone c hc
  | finite negative biased fraction =>
    obtain ⟨n, hwritten, -, -, htoken⟩ := exists_numeral (x := .finite negative biased fraction) rfl
    rw [← htoken] at hc
    rcases hwritten.mem_token hc with hdigit | rfl | rfl | rfl | rfl | rfl
    · have hrange : 0x30 ≤ c.val ∧ c.val ≤ 0x39 := by
        rw [CodePoint.isAsciiDigit, CodePoint.asciiDigit?] at hdigit
        split at hdigit
        · assumption
        · cases hdigit
      exact Text.isBlank_of_visible (by omega) (by omega)
    · rfl
    · rfl
    · rfl
    · rfl
    · rfl

/-! ## Normal forms of values -/

/-- The normal form of a raw value, by what it was read as: that itself, a date in its parts, and the raw value where nothing was read. -/
def Value.normal (raw : Value) : Value → Value
  | .null => raw
  | .date d => .list [.int d.year, .int d.month, .int d.day]
  | v => v

namespace Payload

/-- What a value gives as a text is stripped. -/
theorem strip_of_textOf {name : Text} {raw : Value} {s : Text} (h : textOf name raw = .ok (some s)) : s.strip = s := by
  cases raw with
  | null => cases h
  | bool b =>
    cases h
    cases b <;> rfl
  | int n =>
    simp only [textOf] at h
    split at h
    · cases h
      exact Text.strip_ofInt n
    · cases h
  | float x =>
    cases h
    exact x.strip_text
  | str t =>
    cases h
    exact (Text.isTrimmed_strip t).strip
  | date d => cases h
  | list items => cases h
  | dict members => cases h

/-- What gives no date but is not malformed gives none by any pattern. -/
theorem dateOf_eq_ok_none {pattern name : Text} {raw : Value} (h : dateOf (.ok pattern) name raw = .ok none) (other : Text) :
    dateOf (.ok other) name raw = .ok none := by
  cases raw with
  | null => rfl
  | list items =>
    obtain ⟨d, -, hd⟩ := (map_eq_ok_iff _ _ _).1 h
    cases hd
  | str s =>
    simp only [dateOf] at h ⊢
    split at h
    · next hblank => rw [if_pos hblank]
    · split at h <;> cases h
  | bool b => cases h
  | int n => cases h
  | float x => cases h
  | date d => cases h
  | dict members => cases h

/-- What a raw value was read as is read from its normal form, by any pattern. -/
theorem readValue_normal {kind : FieldKind} {pattern name : Text} {raw v : Value} (h : kind.readValue pattern name raw = .ok v)
    (other : Text) : kind.readValue other name (raw.normal v) = .ok v := by
  cases kind with
  | string =>
    obtain ⟨read, hread, rfl⟩ := (map_eq_ok_iff _ _ _).1 h
    cases read with
    | none => exact h
    | some s =>
      have hstrip := strip_of_textOf hread
      simp only [FieldKind.readValue, Option.elim, Value.normal, textOf, hstrip]
      rfl
  | integer =>
    obtain ⟨read, -, rfl⟩ := (map_eq_ok_iff _ _ _).1 h
    cases read with
    | none => exact h
    | some n => rfl
  | date =>
    obtain ⟨read, hread, rfl⟩ := (map_eq_ok_iff _ _ _).1 h
    refine (map_eq_ok_iff _ _ _).2 ⟨read, ?_, rfl⟩
    cases read with
    | none => exact dateOf_eq_ok_none hread other
    | some d => exact (dateOf_eq_ok_some_iff other name _ d).2 rfl

end Payload

/-! ## Normal forms of payloads -/

namespace Members

/-- What is found in an object whose values are changed by name is what was found, changed. -/
theorem lookup_map (change : Text → Value → Value) (ms : Members) (name : Text) :
    (ms.map fun m => (m.1, change m.1 m.2)).lookup name = (ms.lookup name).map (change name) := by
  induction ms with
  | nil => rfl
  | cons m rest ih =>
    rw [List.map_cons, List.lookup_cons, List.lookup_cons]
    by_cases h : name = m.1
    · simp [h]
    · simp [beq_eq_false_iff_ne.2 h, ih]

end Members

namespace Gate

/-- The value of a member of a payload in its normal form, when the member is a field of the mode that can be read. -/
def normalMember (g : Gate) (mode : Mode) (payload : Payload) (name : Text) (raw : Value) : Value :=
  match (g.schema.fields mode).find? fun f => decide (f.name = name) with
  | none => raw
  | some f =>
    match payload.extract g.defaults f.kind f.name with
    | .ok v => raw.normal v
    | .error _ => raw

/-- A payload with each of its fields in the normal form. -/
def normalised (g : Gate) (mode : Mode) (payload : Payload) : Payload :=
  payload.map fun m => (m.1, g.normalMember mode payload m.1 m.2)

section Normalised

variable {g : Gate} {mode : Mode} {payload other : Payload} {f : Field} {violations : List Violation}

theorem names_normalised (g : Gate) (mode : Mode) (payload : Payload) : Members.names (g.normalised mode payload) = payload.names := by
  simp [normalised, Members.names]

/-- What stands under a name in a normal form is the normal form of what stands there in the payload. -/
theorem get_normalised_of_mem {name : Text} (h : name ∈ payload.names) :
    Members.get (g.normalised mode payload) name = g.normalMember mode payload name (payload.get name) := by
  obtain ⟨v, hv⟩ := Option.isSome_iff_exists.1 ((Members.mem_names_iff payload name).1 h)
  rw [Members.get, normalised, Members.lookup_map, Members.get, hv]
  rfl

/-- Where no field stands, a normal form has the value of its payload. -/
theorem get_normalised_of_no_field {name : Text} (h : ∀ f ∈ g.schema.fields mode, f.name ≠ name) :
    Members.get (g.normalised mode payload) name = payload.get name := by
  by_cases hmem : name ∈ payload.names
  · have hnone : (g.schema.fields mode).find? (fun f => decide (f.name = name)) = none := by
      rw [List.find?_eq_none]
      intro f hf
      simp [h f hf]
    rw [get_normalised_of_mem hmem, normalMember, hnone]
  · have hnot : name ∉ Members.names (g.normalised mode payload) := by rwa [names_normalised]
    rw [Members.get_of_not_mem hnot, Members.get_of_not_mem hmem]

/-- A name that only one field has finds it. -/
theorem find?_field (hnodup : ((g.schema.fields mode).map Field.name).Nodup) (hf : f ∈ g.schema.fields mode) :
    (g.schema.fields mode).find? (fun q => decide (q.name = f.name)) = some f := by
  cases hfind : (g.schema.fields mode).find? (fun q => decide (q.name = f.name)) with
  | none => exact absurd (by simp) (List.find?_eq_none.1 hfind f hf)
  | some q =>
    have hq : q.name = f.name := by simpa using List.find?_some hfind
    rw [List.inj_on_of_nodup_map hnodup (List.mem_of_find?_eq_some hfind) hf hq]

/-- A field that is read stands in the normal form as it was read. -/
theorem get_normalised_of_extract (hnodup : ((g.schema.fields mode).map Field.name).Nodup) (hf : f ∈ g.schema.fields mode)
    (hmem : f.name ∈ payload.names) {v : Value} (h : payload.extract g.defaults f.kind f.name = .ok v) :
    Members.get (g.normalised mode payload) f.name = (payload.get f.name).normal v := by
  rw [get_normalised_of_mem hmem, normalMember, find?_field hnodup hf]
  simp only [h]

/-- A payload is examined as another one when the same fields stand in both and are read as the same. -/
theorem examinePayload_of_extract_eq (hsound : g.Sound other)
    (hmem : ∀ f ∈ g.schema.fields mode, f.name ∈ other.names ↔ f.name ∈ payload.names)
    (hextract : ∀ f ∈ g.checked mode payload, other.extract g.defaults f.kind f.name = payload.extract g.defaults f.kind f.name)
    (h : g.examinePayload mode payload = .ok violations) : g.examinePayload mode other = .ok violations := by
  obtain ⟨hsoundPayload, -⟩ := of_examinePayload_eq_ok h
  have hstructure : g.checkStructure payload = g.checkStructure other := by
    rw [checkStructure_of_sound hsoundPayload, checkStructure_of_sound hsound]
  rw [← h]
  exact (examinePayload_eq_of_extract hstructure (fun f hf => (hmem f hf).symm) fun f hf => (hextract f hf).symm).symm

/-- A payload that has the fields of a normal form is examined as the payload of the normal form is, whatever its date format is. -/
theorem examinePayload_of_get_normalised (hnodup : ((g.schema.fields mode).map Field.name).Nodup) (hsound : g.Sound other)
    (hmem : ∀ f ∈ g.schema.fields mode, f.name ∈ other.names ↔ f.name ∈ payload.names)
    (hget : ∀ f ∈ g.schema.fields mode, other.get f.name = Members.get (g.normalised mode payload) f.name)
    (h : g.examinePayload mode payload = .ok violations) : g.examinePayload mode other = .ok violations := by
  obtain ⟨hsoundPayload, hnames, hsettled, -⟩ := of_examinePayload_eq_ok h
  refine examinePayload_of_extract_eq hsound hmem ?_ h
  intro f hf
  obtain ⟨hfield, -⟩ := mem_checked_iff.1 hf
  obtain ⟨v, hv, -⟩ := hsettled f hf
  have hname := hnames f hfield
  rw [hv]
  by_cases hthere : f.name ∈ payload.names
  · have hread := hv
    rw [Payload.extract_eq_readValue f.kind hname (Payload.dateFormat_eq g.defaults hsoundPayload.dateFormat)] at hread
    rw [Payload.extract_eq_readValue f.kind hname (Payload.dateFormat_eq g.defaults hsound.dateFormat), hget f hfield,
      get_normalised_of_extract hnodup hfield hthere hv]
    exact Payload.readValue_normal hread _
  · rw [extract_of_absent g.defaults f.kind hname hthere] at hv
    rw [extract_of_absent g.defaults f.kind hname (mt (hmem f hfield).1 hthere), hv]

/-- A normal form is sound when its payload is and neither member of the context is a field. -/
theorem Sound.normalised (h : g.Sound payload) (hformat : ∀ f ∈ g.schema.fields mode, f.name ≠ Payload.dateFormatName)
    (hlocale : ∀ f ∈ g.schema.fields mode, f.name ≠ Payload.localeName) : g.Sound (g.normalised mode payload) where
  supported := by
    intro name hname
    rw [names_normalised] at hname
    exact h.supported name hname
  dateFormat := by
    rw [get_normalised_of_no_field hformat]
    exact h.dateFormat
  locale := by
    rw [get_normalised_of_no_field hlocale]
    exact h.locale

/-- A sound payload stays sound when it is given a date format, where the schema supports one. -/
theorem Sound.put_dateFormat (h : g.Sound payload) (hsupported : Payload.dateFormatName ∈ g.schema.supported) (format : Text) :
    g.Sound (Members.put payload Payload.dateFormatName (.str format)) where
  supported := by
    intro name hname
    rw [Members.names_put] at hname
    split at hname
    · exact h.supported name hname
    · rcases List.mem_append.1 hname with hname | hname
      · exact h.supported name hname
      · rwa [List.mem_singleton.1 hname]
  dateFormat := by
    rw [Members.get_put, if_pos rfl]
    exact .inr ⟨format, rfl⟩
  locale := by
    rw [Members.get_put, if_neg (by decide)]
    exact h.locale

end Normalised

/-- In a schema whose fields have different names, and none the name of a member of the context, a payload that is examined to the end
has a normal form with the same members: a field that was read as something stands in it as it was read, and all else as it did. The
normal form is examined to the end with the same violations and ends the same, and it is so with any other date format. -/
theorem examinePayload_normalised (g : Gate) (mode : Mode) (hnodup : ((g.schema.fields mode).map Field.name).Nodup)
    (hformat : ∀ f ∈ g.schema.fields mode, f.name ≠ Payload.dateFormatName)
    (hlocale : ∀ f ∈ g.schema.fields mode, f.name ≠ Payload.localeName) (payload : Payload) (violations : List Violation)
    (h : g.examinePayload mode payload = .ok violations) :
    Members.names (g.normalised mode payload) = payload.names ∧
      (∀ f ∈ g.schema.fields mode, f.name ∈ payload.names → ∃ v, payload.extract g.defaults f.kind f.name = .ok v ∧
        Members.get (g.normalised mode payload) f.name = (payload.get f.name).normal v) ∧
      (∀ name, (∀ f ∈ g.schema.fields mode, f.name ≠ name) → Members.get (g.normalised mode payload) name = payload.get name) ∧
      g.examinePayload mode (g.normalised mode payload) = .ok violations ∧
      g.validatePayload mode (g.normalised mode payload) = g.validatePayload mode payload ∧
      (Payload.dateFormatName ∈ g.schema.supported → ∀ format,
        g.examinePayload mode (Members.put (g.normalised mode payload) Payload.dateFormatName (.str format)) = .ok violations) := by
  obtain ⟨hsound, -, hsettled, -⟩ := of_examinePayload_eq_ok h
  have hnormal : g.Sound (g.normalised mode payload) := hsound.normalised hformat hlocale
  have hexamined : g.examinePayload mode (g.normalised mode payload) = .ok violations := by
    refine examinePayload_of_get_normalised hnodup hnormal ?_ (fun _ _ => rfl) h
    intro f _
    rw [names_normalised]
  refine ⟨names_normalised g mode payload, ?_, fun _ hname => get_normalised_of_no_field hname, hexamined, ?_, ?_⟩
  · intro f hf hmem
    obtain ⟨v, hv, -⟩ := hsettled f (mem_checked_iff.2 ⟨hf, .inr hmem⟩)
    exact ⟨v, hv, get_normalised_of_extract hnodup hf hmem hv⟩
  · rw [validatePayload_eq, validatePayload_eq, hexamined, h]
  · intro hsupported format
    refine examinePayload_of_get_normalised hnodup (hnormal.put_dateFormat hsupported format) ?_ ?_ h
    · intro f hf
      rw [Members.names_put, names_normalised]
      split
      · rfl
      · simp [hformat f hf]
    · intro f hf
      rw [Members.get_put, if_neg (hformat f hf)]

/-- The members of an update of an office, all in other spellings than those in which they are read. -/
def spelledUpdate : Payload :=
  [("dateFormat", .str "dd.MM.yyyy"), ("openingDate", .str " 31.12.2020 "), ("name", .int 7), ("funds", .str " -07 ")]

/-- The update in other spellings has the same one violation in its normal form, with or without its date format. -/
theorem office_examines_normal_form :
    let normal : Payload :=
      [("dateFormat", .str "dd.MM.yyyy"), ("openingDate", .list [.int 2020, .int 12, .int 31]), ("name", .str "7"), ("funds", .int (-7))]
    let violations := [Rule.positive.violation "office" "funds" (.int (-7))]
    office.examinePayload .update spelledUpdate = .ok violations ∧ office.normalised .update spelledUpdate = normal ∧
      office.examinePayload .update normal = .ok violations ∧
      office.examinePayload .update (normal.put "dateFormat" (.str "yyyy")) = .ok violations := by
  intro normal violations
  have hfound : office.examinePayload .update spelledUpdate = .ok violations := by
    have hsound : office.Sound spelledUpdate := ⟨by decide, .inr ⟨_, rfl⟩, .inl rfl⟩
    have hfields : office.checkFields .update spelledUpdate = .ok violations := rfl
    rw [examinePayload_eq, (checkStructure_eq_ok_iff _ _).2 hsound]
    exact hfields
  have hnormal : office.normalised .update spelledUpdate = normal := rfl
  obtain ⟨-, -, -, hexamined, -, hother⟩ :=
    examinePayload_normalised office .update (by decide) (by decide) (by decide) spelledUpdate violations hfound
  rw [hnormal] at hexamined hother
  exact ⟨hfound, hnormal, hexamined, hother (by decide) "yyyy"⟩

end Gate

end Admission
