import Admission.Proofs.OfficeLanguage
import Admission.Proofs.Precedence

/-!
# The status of a company

The status of a company is a text when an office is created and the day on which it changed when the office is updated. Nothing else
tells the two modes of the office apart: a command that creates an office updates it too, unless its status gives no day, and then it
is rejected for the status alone (`validate_office_update_of_create`).
-/

namespace Admission

namespace Schema

/-- The status of a company when its office is created. -/
def statusText : Field := { name := "companyStatus", kind := .string, requiredOnCreate := true, rules := textRules }

/-- The status of a company when its office is updated. -/
def statusDay : Field := { statusText with kind := .date, rules := [.notNull] }

theorem statusText_mem : statusText ∈ office.fields .create := by decide

theorem statusDay_mem : statusDay ∈ office.fields .update := by decide

/-- Every other field of an update is one of a create command. -/
theorem eq_statusDay_or_mem_create : ∀ f ∈ office.fields .update, f = statusDay ∨ f ∈ office.fields .create := by decide

end Schema

namespace Payload

variable {pattern : Text} {raw : Value}

theorem IsOfficeText.mem_names {payload : Payload} {name : Text} (h : IsOfficeText (payload.get name)) : name ∈ payload.names := by
  refine Members.mem_names_of_get_ne_null fun hnull => ?_
  rw [hnull] at h
  exact h

/-- A raw value that a text of an office can have gives a day exactly when it is a text that the pattern reads. -/
theorem isDay_iff_of_isOfficeText (h : IsOfficeText raw) :
    IsDay pattern raw ↔ ∃ s : Text, raw = .str s ∧ ∃ d, DatePattern.read pattern s.strip = .ok d := by
  cases raw with
  | str s =>
    have hblank : s.isBlank = false := (Text.strip_ne_nil_iff s).1 (List.length_pos_iff.1 h.1)
    simp [IsDay, hblank]
  | list items => exact h.elim
  | _ => simp [IsDay]

/-- A raw value that a text of an office can have gives a day, or is malformed as one, under a pattern whose format names no part
twice. It is neither blank, which would be read as nothing, nor a list, whose parts could be too wide. -/
theorem isDay_or_malformed (hformat : ¬ DatePattern.RepeatsDirective pattern) (name : Text) (h : IsOfficeText raw) :
    IsDay pattern raw ∨ FieldKind.date.readValue pattern name raw = .error (malformed name raw .date) := by
  cases raw with
  | str s =>
    have hblank : s.isBlank = false := (Text.strip_ne_nil_iff s).1 (List.length_pos_iff.1 h.1)
    rcases dateOf_text_outcome hformat hblank name with ⟨d, hread⟩ | hread
    · exact .inl ⟨hblank, d, ((dateOf_eq_ok_some_iff _ _ _ _).1 hread).2⟩
    · right
      rw [FieldKind.readValue, hread]
      rfl
  | bool b => exact .inr rfl
  | int n => exact .inr rfl
  | float x => exact .inr rfl
  | null => exact h.elim
  | date d => exact h.elim
  | list items => exact h.elim
  | dict members => exact h.elim

end Payload

namespace Gate

/-- A malformed field is what a command is rejected for when every other field that is checked is settled. -/
theorem validate_of_malformed_alone {g : Gate} {mode : Mode} {text : Option Text} {payload : Payload} {f : Field}
    (hnames : ∀ q ∈ g.schema.fields mode, q.name ≠ []) (hread : Payload.read text = .ok payload) (hsound : g.Sound payload)
    (hf : f ∈ g.checked mode payload) (h : g.IsMalformed payload f)
    (hothers : ∀ q ∈ g.checked mode payload, q = f ∨ g.Settled payload q) :
    g.validate mode text = .error (.rejected (.malformedField f.name (payload.get f.name) f.kind.name)) := by
  -- The first place of the field: it stands nowhere before it, so all that stands there is settled.
  obtain ⟨before, after, hsplit, hfirst⟩ := List.eq_append_cons_of_mem hf
  refine FirstCause.validate hnames (.malformed hread hsound hsplit ?_ h)
  intro q hq
  have hmem : q ∈ g.checked mode payload := by
    rw [hsplit]
    exact List.mem_append_left _ hq
  rcases hothers q hmem with rfl | hsettled
  · exact absurd hq hfirst
  · exact hsettled

section Office

variable {g : Gate} {payload : Payload}

/-- A payload that creates an office has a sound structure, a text as its status, and values that all other fields of an update admit. -/
theorem sound_and_admits_of_office_create (hoffice : g.schema = Schema.office) (h : g.validatePayload .create payload = .ok ()) :
    g.Sound payload ∧ Payload.IsOfficeText (payload.get "companyStatus") ∧
      ∀ f ∈ g.schema.fields .update, Checks .update payload f →
        f = Schema.statusDay ∨ f.Admits (payload.effectiveFormat g.defaults) (payload.get f.name) := by
  rw [validatePayload_eq_ok_iff_admits (hoffice ▸ Schema.office_name_ne_nil .create)] at h
  obtain ⟨hsound, hadmits⟩ := h
  rw [hoffice] at hadmits ⊢
  refine ⟨hsound, ?_, ?_⟩
  · have hstatus := hadmits Schema.statusText Schema.statusText_mem (.inl ⟨rfl, rfl⟩)
    exact (Payload.admits_text_iff rfl rfl _ _).1 hstatus
  · intro f hf hchecks
    refine (Schema.eq_statusDay_or_mem_create f hf).imp_right fun hcreate => ?_
    exact hadmits f hcreate (.inr ((checks_update_iff payload f).1 hchecks))

/-- A payload that creates an office updates it exactly when its status gives a day. -/
theorem validatePayload_office_update_iff (hoffice : g.schema = Schema.office)
    (hcreate : g.validatePayload .create payload = .ok ()) :
    g.validatePayload .update payload = .ok () ↔
      Payload.IsDay (payload.effectiveFormat g.defaults) (payload.get "companyStatus") := by
  obtain ⟨hsound, htext, hothers⟩ := sound_and_admits_of_office_create hoffice hcreate
  have hmem : Schema.statusDay ∈ g.schema.fields .update := hoffice ▸ Schema.statusDay_mem
  have hday : Schema.statusDay.Admits (payload.effectiveFormat g.defaults) (payload.get "companyStatus") ↔
      Payload.IsDay (payload.effectiveFormat g.defaults) (payload.get "companyStatus") := Payload.admits_day_iff rfl rfl _ _
  rw [validatePayload_eq_ok_iff_admits (hoffice ▸ Schema.office_name_ne_nil .update), ← hday]
  constructor
  · rintro ⟨-, hadmits⟩
    exact hadmits _ hmem ((checks_update_iff payload _).2 htext.mem_names)
  · intro hstatus
    refine ⟨hsound, fun f hf hchecks => ?_⟩
    rcases hothers f hf hchecks with rfl | hadmits
    · exact hstatus
    · exact hadmits

/-- A payload that creates an office and has a status that gives no day is rejected for it when it updates the office. -/
theorem validate_office_update_of_not_isDay (hoffice : g.schema = Schema.office) {text : Option Text}
    (hread : Payload.read text = .ok payload) (hcreate : g.validatePayload .create payload = .ok ())
    (hformat : ¬ DatePattern.RepeatsDirective (payload.effectiveFormat g.defaults))
    (h : ¬ Payload.IsDay (payload.effectiveFormat g.defaults) (payload.get "companyStatus")) :
    g.validate .update text =
      .error (.rejected (.malformedField "companyStatus" (payload.get "companyStatus") "date")) := by
  obtain ⟨hsound, htext, hothers⟩ := sound_and_admits_of_office_create hoffice hcreate
  have hnames : ∀ f ∈ g.schema.fields .update, f.name ≠ [] := hoffice ▸ Schema.office_name_ne_nil .update
  have hmem : Schema.statusDay ∈ g.checked .update payload :=
    mem_checked_iff.2 ⟨hoffice ▸ Schema.statusDay_mem, (checks_update_iff payload _).2 htext.mem_names⟩
  have hwritten : (payload.get "companyStatus").unwritable? = none := Payload.unwritable?_get hread "companyStatus"
  have hextract : payload.extract g.defaults .date "companyStatus" =
      .error (.rejected (.malformedField "companyStatus" (payload.get "companyStatus") "date")) := by
    rw [Payload.extract_eq_readValue _ (by decide) (Payload.dateFormat_eq _ hsound.dateFormat)]
    have hmalformed := (Payload.isDay_or_malformed hformat "companyStatus" htext).resolve_left h
    rwa [Payload.malformed_of_written hwritten] at hmalformed
  have hmalformed : g.IsMalformed payload Schema.statusDay := ⟨_, _, _, hextract⟩
  refine validate_of_malformed_alone hnames hread hsound hmem hmalformed ?_
  intro f hf
  obtain ⟨hfield, hchecks⟩ := mem_checked_iff.1 hf
  refine (hothers f hfield hchecks).imp_right fun hadmits => ?_
  exact ((settled_and_deserved_eq_nil_iff hsound (hnames f hfield)).2 hadmits).1

end Office

/-- The two modes of the office, for a command that creates an office under a date format that names no part twice. Taken as an update,
the same command passes exactly when its status is a text that the date format reads, and otherwise is rejected for the status, told
with its own value as a malformed date. -/
theorem validate_office_update_of_create (defaults : Defaults) (text : Option Text) (payload : Payload)
    (hread : Payload.read text = .ok payload)
    (hcreate : ({ schema := Schema.office, defaults } : Gate).validate .create text = .ok ())
    (hformat : ¬ DatePattern.RepeatsDirective (payload.effectiveFormat defaults)) :
    (({ schema := Schema.office, defaults } : Gate).validate .update text = .ok () ↔
        ∃ s : Text, payload.get "companyStatus" = .str s ∧
          ∃ d, DatePattern.read (payload.effectiveFormat defaults) s.strip = .ok d) ∧
      (({ schema := Schema.office, defaults } : Gate).validate .update text ≠ .ok () →
        ({ schema := Schema.office, defaults } : Gate).validate .update text =
          .error (.rejected (.malformedField "companyStatus" (payload.get "companyStatus") "date"))) := by
  rw [validate_eq_of_read hread] at hcreate
  have hiff := validatePayload_office_update_iff rfl hcreate
  rw [validate_eq_of_read hread]
  refine ⟨?_, ?_⟩
  · rw [hiff]
    exact Payload.isDay_iff_of_isOfficeText (sound_and_admits_of_office_create rfl hcreate).2.1
  · intro hnot
    have hreject := validate_office_update_of_not_isDay rfl hread hcreate hformat fun hday => hnot (hiff.2 hday)
    rwa [validate_eq_of_read hread] at hreject

/-- A command that creates an office with a status. -/
def statusCommand (status : Text) : Text :=
  Text.concat ["\x7b\"name\":\"A\",\"openingDate\":[2020,2,1],\"cin\":\"B\",\"roc\":\"C\",\"incorporatedDate\":[2020,1,1],",
    "\"companyName\":\"D\",\"companyStatus\":\"", status, "\",\"registrationAddress\":\"E\",\"funds\":5,\"registrationNumber\":7\x7d"]

/-- The payload of this command. -/
def statusPayload (status : Text) : Payload :=
  [("name", .str "A"), ("openingDate", .list [.int 2020, .int 2, .int 1]), ("cin", .str "B"), ("roc", .str "C"),
    ("incorporatedDate", .list [.int 2020, .int 1, .int 1]), ("companyName", .str "D"), ("companyStatus", .str status),
    ("registrationAddress", .str "E"), ("funds", .int 5), ("registrationNumber", .int 7)]

set_option maxRecDepth 1000 in
/-- Two commands that create an office, one with a day as its status and one with a word. The first updates an office as well, and the
second is rejected for its status. -/
theorem office_update_of_status :
    office.validate .update (some (statusCommand " 2020-12-31")) = .ok () ∧
      office.validate .update (some (statusCommand "active")) =
        .error (.rejected (.malformedField "companyStatus" (.str "active") "date")) := by
  have hformat : ¬ DatePattern.RepeatsDirective ({} : Defaults).dateFormat := by
    rw [DatePattern.repeatsDirective_iff]
    decide
  have hday : Payload.read (some (statusCommand " 2020-12-31")) = .ok (statusPayload " 2020-12-31") := by cbv
  have hcreateDay : office.validate .create (some (statusCommand " 2020-12-31")) = .ok () := by
    rw [validate_eq_of_read hday]
    exact eq_ok_of_isOk (by decide +kernel)
  have hdate : DatePattern.read ({} : Defaults).dateFormat (Text.strip " 2020-12-31") =
      .ok ⟨2020, 12, 31, by decide, by decide, by decide⟩ := rfl
  have hword : Payload.read (some (statusCommand "active")) = .ok (statusPayload "active") := by cbv
  have hcreateWord : office.validate .create (some (statusCommand "active")) = .ok () := by
    rw [validate_eq_of_read hword]
    exact eq_ok_of_isOk (by decide +kernel)
  have hunread : DatePattern.read ({} : Defaults).dateFormat (Text.strip "active") = .error .unreadable := rfl
  have hnoday : ¬ ∃ d, DatePattern.read ({} : Defaults).dateFormat (Text.strip "active") = .ok d := by
    rintro ⟨d, hd⟩
    rw [hunread] at hd
    cases hd
  obtain ⟨hpasses, -⟩ := validate_office_update_of_create {} _ _ hday hcreateDay hformat
  obtain ⟨hiff, hrejects⟩ := validate_office_update_of_create {} _ _ hword hcreateWord hformat
  refine ⟨hpasses.2 ⟨_, rfl, _, hdate⟩, hrejects fun hupdate => ?_⟩
  obtain ⟨s, hs, hd⟩ := hiff.1 hupdate
  cases hs
  exact hnoday hd

end Gate

end Admission
