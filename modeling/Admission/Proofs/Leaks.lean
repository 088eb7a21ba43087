import Admission.Proofs.ReadPayloads
import Admission.Proofs.Reporting

/-!
# What no client is told

A pass lets a command through, rejects it with one of four causes, or ends in a fault that no client is told. When the rule that
compares stands at integers only and the reports of the gate can be encoded, such a fault comes from the first field that cannot
be read, and from three forms of its raw value only, or from a limit of too many digits in a violation (`validate_leaks_iff`).
-/

namespace Admission

namespace Rejection

/-- The causes that a pass tells: a malformed payload, unsupported names, a malformed field and violations. -/
def IsOfPass : Rejection → Prop
  | .malformedPayload _ | .unsupportedParameters _ | .malformedField .. | .validationFailed .. => True
  | .internal .. => False

end Rejection

namespace Gate

/-- The first of the checked fields that is not read, those before it being read, whatever their rules say. -/
def FirstUnread (g : Gate) (mode : Mode) (payload : Payload) (f : Field) : Prop :=
  ∃ before after, g.checked mode payload = before ++ f :: after ∧
    (∀ q ∈ before, ∃ v, payload.extract g.defaults q.kind q.name = .ok v) ∧
    ∀ v, payload.extract g.defaults f.kind f.name ≠ .ok v

/-- The rule that compares a value with zero stands at integers only. -/
def ComparesIntegers (g : Gate) (mode : Mode) : Prop :=
  ∀ f ∈ g.schema.fields mode, Rule.positive ∈ f.rules → f.kind = .integer

/-- All checked fields are read, and one of them fails a rule whose limit has more digits than are written. -/
def HasLongReport (g : Gate) (mode : Mode) (payload : Payload) : Prop :=
  (∀ f ∈ g.checked mode payload, ∃ v, payload.extract g.defaults f.kind f.name = .ok v) ∧
    ∃ f ∈ g.checked mode payload, ∃ v n, payload.extract g.defaults f.kind f.name = .ok v ∧ Rule.maxLength n ∈ f.rules ∧
      (Rule.maxLength n).Fails v ∧ ¬ Text.IsShort n

section Leaks

variable {g : Gate} {mode : Mode} {text : Option Text} {payload : Payload} {f : Field}

/-- What is read as an integer can be compared. -/
theorem isComparable_of_extract {defaults : Defaults} {name : Text} {v : Value}
    (h : payload.extract defaults .integer name = .ok v) : v.isComparable = true := by
  obtain ⟨r, -, rfl⟩ := (map_eq_ok_iff _ _ _).1 h
  cases r <;> rfl

/-- Where only integers are compared, a field that is read is settled. -/
theorem settled_of_extract (hcompares : g.ComparesIntegers mode) (hread : Payload.read text = .ok payload)
    (hf : f ∈ g.schema.fields mode) {v : Value} (h : payload.extract g.defaults f.kind f.name = .ok v) : g.Settled payload f := by
  refine ⟨v, h, fun r hr hstops => ?_⟩
  obtain ⟨e, he⟩ := Option.isSome_iff_exists.1 hstops
  rcases (Rule.stop?_eq_some_iff r v e).1 he with ⟨rfl, hnot, -⟩ | ⟨n, cause, -, hcause, -⟩
  · rw [hcompares f hf hr] at h
    rw [isComparable_of_extract h] at hnot
    cases hnot
  · rw [Payload.unwritable?_of_extract hread h] at hcause
    cases hcause

/-- Where only integers are compared, a field ends a pass only when it is not read. -/
theorem extract_of_ends (hcompares : g.ComparesIntegers mode) (hread : Payload.read text = .ok payload)
    (hf : f ∈ g.schema.fields mode) {e : Fault} (h : g.Ends payload f e) : payload.extract g.defaults f.kind f.name = .error e := by
  rcases h with h | ⟨v, hv, hstop⟩
  · exact h
  · obtain ⟨w, hw, hrules⟩ := settled_of_extract hcompares hread hf hv
    rw [hv] at hw
    cases hw
    rw [(Rule.firstStop?_eq_none_iff v f.rules).2 hrules] at hstop
    cases hstop

/-- A violation that a payload deserves has a limit of too many digits exactly where a rule with such a limit is failed. -/
theorem exists_unwritableLimit_iff :
    (∃ v ∈ g.allDeserved mode payload, v.unwritableLimit? ≠ none) ↔
      ∃ f ∈ g.checked mode payload, ∃ value n, payload.extract g.defaults f.kind f.name = .ok value ∧ Rule.maxLength n ∈ f.rules ∧
        (Rule.maxLength n).Fails value ∧ ¬ Text.IsShort n := by
  constructor
  · rintro ⟨v, hv, hlimit⟩
    obtain ⟨f, hf, hv⟩ := List.mem_flatMap.1 hv
    unfold deserved at hv
    split at hv
    · next value hvalue =>
      obtain ⟨r, hr, rfl⟩ := List.mem_map.1 hv
      obtain ⟨hmem, hfails⟩ := List.mem_filter.1 hr
      cases r with
      | maxLength n =>
        refine ⟨f, hf, value, n, hvalue, hmem, of_decide_eq_true hfails, fun hshort => hlimit ?_⟩
        exact if_pos hshort
      | notBlank => exact absurd rfl hlimit
      | notNull => exact absurd rfl hlimit
      | positive => exact absurd rfl hlimit
    · cases hv
  · rintro ⟨f, hf, value, n, hvalue, hmem, hfails, hlong⟩
    refine ⟨(Rule.maxLength n).violation g.schema.resource f.name value, List.mem_flatMap.2 ⟨f, hf, ?_⟩, ?_⟩
    · simp only [deserved, hvalue]
      exact List.mem_map.2 ⟨_, List.mem_filter.2 ⟨hmem, decide_eq_true hfails⟩, rfl⟩
    · have hcause : ((Rule.maxLength n).violation g.schema.resource f.name value).unwritableLimit? = some .longInteger := if_neg hlong
      simp [hcause]

/-- The cause of an unsound structure is one that a pass tells. -/
theorem StructureCause.isOfPass {r : Rejection} (h : g.StructureCause payload r) : r.IsOfPass := by
  cases h <;> trivial

/-- A pass that ends tells one of its causes, or leaks a fault at the first field that is not read, or cannot write a limit in its
report. -/
theorem isOfPass_or_leaks (hnames : ∀ f ∈ g.schema.fields mode, f.name ≠ []) (hreportable : g.Reportable mode)
    (hcompares : g.ComparesIntegers mode) {e : Fault} (h : g.validate mode text = .error e) :
    (∃ r, e = .rejected r ∧ r.IsOfPass) ∨
      ∃ payload, Payload.read text = .ok payload ∧ g.Sound payload ∧
        ((∃ f, g.FirstUnread mode payload f ∧ Payload.Leaks (payload.effectiveFormat g.defaults) f.kind (payload.get f.name) e) ∨
          g.HasLongReport mode payload ∧ e = .unwritable .longInteger) := by
  rcases (validate_eq_error_iff g mode text e).1 h with hread | ⟨payload, hread, h⟩
  · obtain ⟨reason, rfl⟩ := read_error hread
    exact Or.inl ⟨_, rfl, trivial⟩
  · rcases (validatePayload_eq_error_iff g mode payload e).1 h with ⟨r, rfl, hcause⟩ | ⟨hsound, h⟩
    · exact Or.inl ⟨r, (Fault.ofRejection_eq_rejected_iff r r).2 ⟨hcause.fault?_eq_none hread, rfl⟩, hcause.isOfPass⟩
    · rcases h with hfields | ⟨violations, hfields, hverdict⟩
      · obtain ⟨before, f, after, hsplit, hbefore, hends⟩ := (checkFields_eq_error_iff hnames e).1 hfields
        have hmem : f ∈ g.checked mode payload := by simp [hsplit]
        have hf := (mem_checked_iff.1 hmem).1
        have hextract := extract_of_ends hcompares hread hf hends
        rcases extract_error hsound (hnames f hf) hextract with rfl | hleaks
        · exact Or.inl ⟨_, Payload.malformed_of_written (Payload.unwritable?_get hread f.name) f.name f.kind, trivial⟩
        · refine Or.inr ⟨payload, hread, hsound, Or.inl ⟨f, ⟨before, after, hsplit, fun q hq => ?_, fun v hv => ?_⟩, hleaks⟩⟩
          · obtain ⟨v, hv, -⟩ := hbefore q hq
            exact ⟨v, hv⟩
          · rw [hextract] at hv
            cases hv
      · obtain ⟨hsettled, rfl⟩ := (checkFields_eq_ok_iff hnames violations).1 hfields
        obtain ⟨-, rfl⟩ := (verdict_eq_error_iff _ _ _).1 hverdict
        rw [ofViolations_allDeserved hreportable]
        split
        · next hlong =>
          refine Or.inr ⟨payload, hread, hsound, Or.inr ⟨⟨fun f hf => ?_, exists_unwritableLimit_iff.1 hlong⟩, rfl⟩⟩
          obtain ⟨v, hv, -⟩ := hsettled f hf
          exact ⟨v, hv⟩
        · exact Or.inl ⟨_, rfl, trivial⟩

/-- The first field that is not read ends the pass in the fault that it leaks. -/
theorem validate_of_leaks (hnames : ∀ f ∈ g.schema.fields mode, f.name ≠ []) (hcompares : g.ComparesIntegers mode)
    {e : Fault} (hread : Payload.read text = .ok payload) (hsound : g.Sound payload) (hfirst : g.FirstUnread mode payload f)
    (hleaks : Payload.Leaks (payload.effectiveFormat g.defaults) f.kind (payload.get f.name) e) :
    g.validate mode text = .error e := by
  obtain ⟨before, after, hsplit, hbefore, -⟩ := hfirst
  have hmem : ∀ q ∈ before ++ f :: after, q ∈ g.schema.fields mode := by
    intro q hq
    rw [← hsplit] at hq
    exact (mem_checked_iff.1 hq).1
  have hsettled : ∀ q ∈ before, g.Settled payload q := by
    intro q hq
    obtain ⟨v, hv⟩ := hbefore q hq
    exact settled_of_extract hcompares hread (hmem q (by simp [hq])) hv
  have hextract : payload.extract g.defaults f.kind f.name = .error e := by
    have hformat := Payload.dateFormat_eq g.defaults hsound.dateFormat
    rw [Payload.extract_eq_readValue f.kind (hnames f (hmem f (by simp))) hformat]
    exact hleaks.readValue
  rw [validate_eq_error_iff]
  refine Or.inr ⟨payload, hread, (validatePayload_eq_error_iff _ _ _ _).2 (Or.inr ⟨hsound, Or.inl ?_⟩)⟩
  exact (checkFields_eq_error_iff hnames _).2 ⟨before, f, after, hsplit, hsettled, Or.inl hextract⟩

/-- A report with a limit of too many digits ends the pass in the fault of writing it. -/
theorem validate_of_hasLongReport (hnames : ∀ f ∈ g.schema.fields mode, f.name ≠ []) (hreportable : g.Reportable mode)
    (hcompares : g.ComparesIntegers mode) (hread : Payload.read text = .ok payload) (hsound : g.Sound payload)
    (h : g.HasLongReport mode payload) : g.validate mode text = .error (.unwritable .longInteger) := by
  obtain ⟨hextracted, hlong⟩ := h
  have hlimit := exists_unwritableLimit_iff.2 hlong
  have hsettled : ∀ f ∈ g.checked mode payload, g.Settled payload f := by
    intro f hf
    obtain ⟨v, hv⟩ := hextracted f hf
    exact settled_of_extract hcompares hread (mem_checked_iff.1 hf).1 hv
  have hne : g.allDeserved mode payload ≠ [] := by
    obtain ⟨v, hv, -⟩ := hlimit
    exact List.ne_nil_of_mem hv
  rw [validate_eq_of_read hread, validatePayload_eq_error_iff]
  refine Or.inr ⟨hsound, Or.inr ⟨_, checkFields_of_settled hnames hsettled, (verdict_eq_error_iff _ _ _).2 ⟨hne, ?_⟩⟩⟩
  rw [ofViolations_allDeserved hreportable, if_pos hlimit]

end Leaks

/-- The raw value of a field from which a fault comes that no client is told: an integer spelled in too many digits, a date in three
integers of which one is beyond 32 bits, or a date text that is not blank under a format that uses a directive twice. -/
def LeaksFrom (g : Gate) (payload : Payload) (f : Field) : Prop :=
  (f.kind = .integer ∧ Payload.IsLongInteger (payload.get f.name)) ∨
    (f.kind = .date ∧ Payload.IsWideDate (payload.get f.name)) ∨
    (f.kind = .date ∧ Payload.IsRepeatedReading (payload.effectiveFormat g.defaults) (payload.get f.name))

/-- What no client is told, in three parts, for a gate whose fields have names, whose reports can be encoded, and that compares
integers only.
1. A pass ends in a fault that is no rejection exactly when the structure of the payload passes its check and the first of the
   checked fields that is not read has a raw value of one of three forms, or all of them are read and one fails a rule whose limit
   has too many digits.
2. Where no limit has too many digits, only the three forms remain.
3. Any other pass that does not let the command through rejects it with one of the four causes; and the fault of the first part
   is the one that belongs to the form of the raw value, or that of writing the limit. -/
theorem validate_leaks_iff (g : Gate) (mode : Mode) (text : Option Text) (hnames : ∀ f ∈ g.schema.fields mode, f.name ≠ [])
    (hreportable : g.Reportable mode) (hcompares : g.ComparesIntegers mode) :
    ((∃ e, g.validate mode text = .error e ∧ ∀ r, e ≠ .rejected r) ↔
      ∃ payload, Payload.read text = .ok payload ∧ g.checkStructure payload = .ok () ∧
        ((∃ f, g.FirstUnread mode payload f ∧ g.LeaksFrom payload f) ∨ g.HasLongReport mode payload)) ∧
      (g.HasShortLimits mode →
        ((∃ e, g.validate mode text = .error e ∧ ∀ r, e ≠ .rejected r) ↔
          ∃ payload f, Payload.read text = .ok payload ∧ g.checkStructure payload = .ok () ∧ g.FirstUnread mode payload f ∧
            g.LeaksFrom payload f)) ∧
      ∀ e, g.validate mode text = .error e →
        (∃ r, e = .rejected r ∧ r.IsOfPass) ∨
          ∃ payload, Payload.read text = .ok payload ∧
            ((∃ f, g.FirstUnread mode payload f ∧
                Payload.Leaks (payload.effectiveFormat g.defaults) f.kind (payload.get f.name) e) ∨
              g.HasLongReport mode payload ∧ e = .unwritable .longInteger) := by
  have hleaks : (∃ e, g.validate mode text = .error e ∧ ∀ r, e ≠ .rejected r) ↔
      ∃ payload, Payload.read text = .ok payload ∧ g.checkStructure payload = .ok () ∧
        ((∃ f, g.FirstUnread mode payload f ∧ g.LeaksFrom payload f) ∨ g.HasLongReport mode payload) := by
    constructor
    · rintro ⟨e, h, hne⟩
      rcases isOfPass_or_leaks hnames hreportable hcompares h with ⟨r, rfl, -⟩ | ⟨payload, hread, hsound, hends⟩
      · exact absurd rfl (hne r)
      · refine ⟨payload, hread, (checkStructure_eq_ok_iff g payload).2 hsound, ?_⟩
        rcases hends with ⟨f, hfirst, hleaks⟩ | ⟨hlong, -⟩
        · exact Or.inl ⟨f, hfirst, (Payload.exists_leaks_iff _ _ _).1 ⟨e, hleaks⟩⟩
        · exact Or.inr hlong
    · rintro ⟨payload, hread, hstructure, ⟨f, hfirst, hforms⟩ | hlong⟩
      · obtain ⟨e, hleaks⟩ := (Payload.exists_leaks_iff _ _ _).2 hforms
        have hsound := (checkStructure_eq_ok_iff g payload).1 hstructure
        exact ⟨e, validate_of_leaks hnames hcompares hread hsound hfirst hleaks, hleaks.ne_rejected⟩
      · have hsound := (checkStructure_eq_ok_iff g payload).1 hstructure
        exact ⟨_, validate_of_hasLongReport hnames hreportable hcompares hread hsound hlong, nofun⟩
  refine ⟨hleaks, fun hlimits => ?_, fun e h => ?_⟩
  · rw [hleaks]
    constructor
    · rintro ⟨payload, hread, hstructure, ⟨f, hfirst, hforms⟩ | ⟨-, hlong⟩⟩
      · exact ⟨payload, f, hread, hstructure, hfirst, hforms⟩
      · obtain ⟨v, hv, hlimit⟩ := exists_unwritableLimit_iff.2 hlong
        exact absurd (unwritableLimit?_of_hasShortLimits hlimits hv) hlimit
    · rintro ⟨payload, f, hread, hstructure, hfirst, hforms⟩
      exact ⟨payload, hread, hstructure, Or.inl ⟨f, hfirst, hforms⟩⟩
  · rcases isOfPass_or_leaks hnames hreportable hcompares h with hr | ⟨payload, hread, -, hends⟩
    · exact Or.inl hr
    · exact Or.inr ⟨payload, hread, hends⟩

/-- An update of an office whose opening date has too late a year for a machine integer ends in a fault that no client is told. -/
theorem office_leaks_wide_date :
    ∃ e, office.validate .update (some ("\x7b\"openingDate\": [2147483648, 1, 1]\x7d" : Text)) = .error e ∧
      ∀ r, e ≠ .rejected r := by
  have hread : Payload.read (some ("\x7b\"openingDate\": [2147483648, 1, 1]\x7d" : Text)) =
      .ok [("openingDate", .list [.int 2147483648, .int 1, .int 1])] := by cbv
  have hsound : office.Sound [("openingDate", .list [.int 2147483648, .int 1, .int 1])] :=
    ⟨by decide, .inl rfl, .inl rfl⟩
  have hsplit : office.checked .update [("openingDate", .list [.int 2147483648, .int 1, .int 1])] =
      [] ++ { name := "openingDate", kind := .date, requiredOnCreate := true, rules := [.notNull] } :: [] := by decide
  have hday : Payload.extract {} [("openingDate", .list [.int 2147483648, .int 1, .int 1])] .date "openingDate" =
      .error (.partOverflow .aboveMaximum) := rfl
  have hget : Members.get [("openingDate", .list [.int 2147483648, .int 1, .int 1])] "openingDate" =
      .list [.int 2147483648, .int 1, .int 1] := rfl
  have hfirst : office.FirstUnread .update [("openingDate", .list [.int 2147483648, .int 1, .int 1])]
      { name := "openingDate", kind := .date, requiredOnCreate := true, rules := [.notNull] } := by
    refine ⟨[], [], hsplit, by simp, fun v hv => ?_⟩
    cases hday.symm.trans hv
  have hlimits : office.HasShortLimits .update := by
    unfold HasShortLimits
    decide
  have hleaks := validate_leaks_iff office .update (some ("\x7b\"openingDate\": [2147483648, 1, 1]\x7d" : Text)) (by decide)
    ⟨by decide, by decide⟩ (by unfold ComparesIntegers; decide)
  refine (hleaks.2.1 hlimits).2 ⟨_, _, hread, (checkStructure_eq_ok_iff _ _).2 hsound, hfirst, Or.inr (Or.inl ⟨rfl, ?_⟩)⟩
  exact ⟨2147483648, 1, 1, hget, 2147483648, by simp, by omega⟩

/-- The three forms are not all: a pass over a payload whose fields are all read ends in a fault that no client is told when a limit of
too many digits is broken. -/
theorem not_leaks_from_fields_alone :
    ¬ ∀ (g : Gate) (mode : Mode) (text : Option Text), (∀ f ∈ g.schema.fields mode, f.name ≠ []) → g.Reportable mode →
      g.ComparesIntegers mode →
        ((∃ e, g.validate mode text = .error e ∧ ∀ r, e ≠ .rejected r) ↔
          ∃ payload f, Payload.read text = .ok payload ∧ g.checkStructure payload = .ok () ∧ g.FirstUnread mode payload f ∧
            g.LeaksFrom payload f) := by
  intro h
  have hcompares : longLimit.ComparesIntegers .create := by
    intro f hf hpositive
    rw [List.mem_singleton.1 hf] at hpositive
    cases List.mem_singleton.1 hpositive
  obtain ⟨payload, f, hread, -, ⟨before, after, hsplit, -, hunread⟩, -⟩ :=
    (h longLimit .create (some ("\x7b\"mark\": \"x\"\x7d" : Text)) (by decide) ⟨by decide, by decide⟩ hcompares).1
      ⟨_, validate_longLimit, nofun⟩
  have hmark : Payload.read (some ("\x7b\"mark\": \"x\"\x7d" : Text)) = .ok [("mark", .str "x")] := by cbv
  obtain rfl := Except.ok.inj (hmark.symm.trans hread)
  have hmem : f ∈ longLimit.checked .create [("mark", .str "x")] := by simp [hsplit]
  obtain ⟨v, hv, -⟩ := settled_longLimit f hmem
  exact hunread v hv

end Gate

end Admission
