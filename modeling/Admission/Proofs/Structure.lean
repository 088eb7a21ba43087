import Admission.Gate
import Mathlib.Data.List.Permutation

/-!
# The structure of a payload

The structure of a payload is sound, or there is a first thing wrong with it: a name that is not supported, a date format that
is no text, or a locale that is no text.
-/

namespace Admission

namespace Members

/-- A name has a member exactly when it is one of the names. -/
theorem has_eq_true_iff (ms : Members) (name : Text) : ms.has name = true ↔ name ∈ ms.names := by
  unfold has names
  induction ms with
  | nil => simp
  | cons m rest ih =>
    rw [List.lookup_cons, List.map_cons, List.mem_cons, ← ih]
    by_cases h : name = m.1
    · simp [h]
    · simp [beq_eq_false_iff_ne.2 h, h]

theorem has_eq_has_iff (ms others : Members) (name : Text) : ms.has name = others.has name ↔ (name ∈ ms.names ↔ name ∈ others.names) := by
  rw [Bool.eq_iff_iff, has_eq_true_iff, has_eq_true_iff]

theorem mem_names_iff (ms : Members) (name : Text) : name ∈ ms.names ↔ (ms.lookup name).isSome = true :=
  (has_eq_true_iff ms name).symm

theorem get_of_not_mem {ms : Members} {name : Text} (h : name ∉ ms.names) : ms.get name = .null := by
  rw [← has_eq_true_iff, has, Bool.not_eq_true, Option.isSome_eq_false_iff, Option.isNone_iff_eq_none] at h
  rw [get, h]
  rfl

/-- A name that has a member gives what stands there. -/
theorem mem_of_mem_names {ms : Members} {name : Text} (h : name ∈ ms.names) : (name, ms.get name) ∈ ms := by
  obtain ⟨v, hv⟩ := Option.isSome_iff_exists.1 ((mem_names_iff ms name).1 h)
  obtain ⟨before, after, hsplit, -⟩ := List.lookup_eq_some_iff.1 hv
  rw [get, hv, hsplit]
  exact List.mem_append_right _ List.mem_cons_self

/-- A name that gives something else than null has a member. -/
theorem mem_names_of_get_ne_null {ms : Members} {name : Text} (h : ms.get name ≠ .null) : name ∈ ms.names :=
  Classical.byContradiction fun hnot => h (get_of_not_mem hnot)

end Members

/-! ## The context -/

namespace Payload

/-- A member of the context can be read: it is absent, null or a text. -/
def IsContext (raw : Value) : Prop := raw = .null ∨ ∃ s : Text, raw = .str s

/-- The date format that holds for a payload: its own one, stripped, and the default where it has none or a blank one. -/
def effectiveFormat (defaults : Defaults) (payload : Payload) : Text :=
  match payload.get dateFormatName with
  | .str s => if s.isBlank then defaults.dateFormat else s.strip
  | _ => defaults.dateFormat

/-- A member of the context that can be read gives a text. -/
theorem contextText_of_isContext {payload : Payload} {name : Text} (default : Text) (h : IsContext (payload.get name)) :
    ∃ text, payload.contextText name default = .ok text := by
  unfold contextText
  rcases h with h | ⟨s, h⟩
  · exact ⟨default, by rw [h]⟩
  · exact ⟨_, by rw [h]⟩

/-- A member of the context that cannot be read is malformed, under its own name as its kind. -/
theorem contextText_of_not_isContext {payload : Payload} {name default : Text} (h : ¬ IsContext (payload.get name)) :
    payload.contextText name default = .error (.ofRejection (.malformedField name (payload.get name) name)) := by
  unfold contextText
  split
  · next hnull => exact absurd (Or.inl hnull) h
  · next s hs => exact absurd (Or.inr ⟨s, hs⟩) h
  · rfl

/-- The date format of a payload that has a readable one, or none, is the one that holds for it. -/
theorem dateFormat_eq {payload : Payload} (defaults : Defaults) (h : IsContext (payload.get dateFormatName)) :
    payload.dateFormat defaults = .ok (payload.effectiveFormat defaults) := by
  unfold dateFormat contextText effectiveFormat
  rcases h with h | ⟨s, h⟩
  · rw [h]
  · simp only [h, Text.strip_eq_nil_iff]

end Payload

/-! ## The check of a structure -/

/-- The unsupported names are those that are there and are not supported. -/
theorem Schema.mem_unsupported_iff (s : Schema) (names : List Text) (name : Text) :
    name ∈ s.unsupported names ↔ name ∈ names ∧ name ∉ s.supported := by
  simp [Schema.unsupported, Text.sorted]

namespace Gate

/-- A payload whose structure is sound. -/
structure Sound (g : Gate) (payload : Payload) : Prop where
  supported : ∀ name ∈ payload.names, name ∈ g.schema.supported
  dateFormat : Payload.IsContext (payload.get Payload.dateFormatName)
  locale : Payload.IsContext (payload.get Payload.localeName)

/-- The first thing that is wrong with the structure of a payload. -/
inductive StructureCause (g : Gate) (payload : Payload) : Rejection → Prop where
  | unsupported (h : ∃ name ∈ payload.names, name ∉ g.schema.supported) :
    StructureCause g payload (.unsupportedParameters (g.schema.unsupported payload.names))
  | dateFormat (supported : ∀ name ∈ payload.names, name ∈ g.schema.supported)
      (h : ¬ Payload.IsContext (payload.get Payload.dateFormatName)) :
    StructureCause g payload
      (.malformedField Payload.dateFormatName (payload.get Payload.dateFormatName) Payload.dateFormatName)
  | locale (supported : ∀ name ∈ payload.names, name ∈ g.schema.supported)
      (dateFormat : Payload.IsContext (payload.get Payload.dateFormatName))
      (h : ¬ Payload.IsContext (payload.get Payload.localeName)) :
    StructureCause g payload (.malformedField Payload.localeName (payload.get Payload.localeName) Payload.localeName)

/-- No name is unsupported exactly when all are supported. -/
theorem unsupported_eq_nil_iff (s : Schema) (names : List Text) :
    s.unsupported names = [] ↔ ∀ name ∈ names, name ∈ s.supported := by
  rw [List.eq_nil_iff_forall_not_mem]
  constructor
  · intro h name hname
    exact Classical.byContradiction fun hnot => h name ((s.mem_unsupported_iff names name).2 ⟨hname, hnot⟩)
  · intro h name hname
    obtain ⟨hmem, hnot⟩ := (s.mem_unsupported_iff names name).1 hname
    exact hnot (h name hmem)

/-- A sound structure passes its check. -/
theorem checkStructure_of_sound {g : Gate} {payload : Payload} (h : g.Sound payload) : g.checkStructure payload = .ok () := by
  obtain ⟨format, hformat⟩ := Payload.contextText_of_isContext g.defaults.dateFormat h.dateFormat
  obtain ⟨locale, hlocale⟩ := Payload.contextText_of_isContext g.defaults.locale h.locale
  unfold checkStructure Payload.dateFormat Payload.locale
  rw [(unsupported_eq_nil_iff _ _).2 h.supported, hformat, hlocale]
  rfl

/-- The first thing that is wrong with a structure is what ends its check. -/
theorem checkStructure_of_cause {g : Gate} {payload : Payload} {r : Rejection} (h : g.StructureCause payload r) :
    g.checkStructure payload = .error (.ofRejection r) := by
  unfold checkStructure Payload.dateFormat Payload.locale
  cases h with
  | unsupported h =>
    obtain ⟨name, hname, hnot⟩ := h
    split
    · next hnil => exact absurd ((unsupported_eq_nil_iff _ _).1 hnil name hname) hnot
    · rfl
  | dateFormat supported h =>
    rw [(unsupported_eq_nil_iff _ _).2 supported, Payload.contextText_of_not_isContext h]
    rfl
  | locale supported dateFormat h =>
    obtain ⟨format, hformat⟩ := Payload.contextText_of_isContext g.defaults.dateFormat dateFormat
    rw [(unsupported_eq_nil_iff _ _).2 supported, hformat, Payload.contextText_of_not_isContext h]
    rfl

/-- A structure is sound, or there is a first thing wrong with it. -/
theorem sound_or_cause (g : Gate) (payload : Payload) : g.Sound payload ∨ ∃ r, g.StructureCause payload r := by
  by_cases hnames : ∀ name ∈ payload.names, name ∈ g.schema.supported
  · by_cases hformat : Payload.IsContext (payload.get Payload.dateFormatName)
    · by_cases hlocale : Payload.IsContext (payload.get Payload.localeName)
      · exact Or.inl ⟨hnames, hformat, hlocale⟩
      · exact Or.inr ⟨_, .locale hnames hformat hlocale⟩
    · exact Or.inr ⟨_, .dateFormat hnames hformat⟩
  · obtain ⟨name, hname⟩ := Classical.not_forall.1 hnames
    obtain ⟨hmem, hnot⟩ := Classical.not_imp.1 hname
    exact Or.inr ⟨_, .unsupported ⟨name, hmem, hnot⟩⟩

/-- Exactly the sound structures pass their check. -/
theorem checkStructure_eq_ok_iff (g : Gate) (payload : Payload) : g.checkStructure payload = .ok () ↔ g.Sound payload := by
  refine ⟨fun h => ?_, checkStructure_of_sound⟩
  rcases g.sound_or_cause payload with hsound | ⟨r, hr⟩
  · exact hsound
  · rw [checkStructure_of_cause hr] at h
    cases h

/-- The check of a structure fails exactly as the first thing that is wrong with it. -/
theorem checkStructure_eq_error_iff (g : Gate) (payload : Payload) (e : Fault) :
    g.checkStructure payload = .error e ↔ ∃ r, e = .ofRejection r ∧ g.StructureCause payload r := by
  constructor
  · intro h
    rcases g.sound_or_cause payload with hsound | ⟨r, hr⟩
    · rw [checkStructure_of_sound hsound] at h
      cases h
    · rw [checkStructure_of_cause hr] at h
      exact ⟨r, (Except.error.inj h).symm, hr⟩
  · rintro ⟨r, rfl, hr⟩
    exact checkStructure_of_cause hr

end Gate

end Admission
