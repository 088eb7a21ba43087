import Admission.Proofs.Acceptance

/-!
# Updates, member by member

An update is judged member by member: what is asked of a member depends on its own name and value and on the date format, and on
nothing else that the payload holds (`validatePayload_update_eq_ok_iff`). So an update passes exactly when each of its members passes
alone with the date format, and accepted updates can be taken apart and put together (`validate_update_iff_forall_only`).
-/

namespace Admission

namespace Payload

/-- The members of a payload whose names are kept. -/
def keeping (payload : Payload) (keep : Text → Bool) : Payload := payload.filter fun m => keep m.1

/-- One member of a payload, and its date format when it has one. -/
def only (payload : Payload) (name : Text) : Payload := payload.keeping fun n => decide (n = name ∨ n = dateFormatName)

/-- A part of a payload: all its members are members of the payload, and it has the same date format. -/
structure PartOf (part payload : Payload) : Prop where
  member : ∀ name ∈ part.names, name ∈ payload.names ∧ part.get name = payload.get name
  dateFormat : part.get dateFormatName = payload.get dateFormatName

/-- A payload that holds the members of two others, which share no member but a date format that is equal, or that neither has. -/
structure MergeOf (merged payload other : Payload) : Prop where
  disjoint : ∀ name ∈ payload.names, name ∈ other.names → name = dateFormatName
  dateFormat : payload.lookup dateFormatName = other.lookup dateFormatName
  lookup : ∀ name, merged.lookup name = (payload.lookup name).or (other.lookup name)

/-! ## Parts -/

/-- Under a name that is kept there stands what stood there before, and under no other name anything. -/
theorem lookup_keeping (payload : Payload) (keep : Text → Bool) (name : Text) :
    (payload.keeping keep).lookup name = if keep name then payload.lookup name else none := by
  unfold keeping
  induction payload with
  | nil => simp
  | cons m rest ih =>
    obtain ⟨n, v⟩ := m
    rw [List.filter_cons]
    by_cases hname : name = n
    · subst hname
      cases hkeep : keep name with
      | false => simp [ih, hkeep]
      | true => simp
    · have hne : (name == n) = false := beq_eq_false_iff_ne.2 hname
      cases keep n <;> simp [List.lookup_cons, hne, ih]

theorem mem_names_keeping_iff (payload : Payload) (keep : Text → Bool) (name : Text) :
    name ∈ (payload.keeping keep).names ↔ keep name = true ∧ name ∈ payload.names := by
  rw [Members.mem_names_iff, Members.mem_names_iff, lookup_keeping]
  cases keep name <;> simp

theorem get_keeping {payload : Payload} {keep : Text → Bool} {name : Text} (h : keep name = true) :
    (payload.keeping keep).get name = payload.get name := by
  rw [Members.get, Members.get, lookup_keeping, if_pos h]

theorem partOf_keeping (payload : Payload) {keep : Text → Bool} (h : keep dateFormatName = true) :
    PartOf (payload.keeping keep) payload := by
  refine ⟨?_, get_keeping h⟩
  intro name hname
  obtain ⟨hkeep, hmem⟩ := (mem_names_keeping_iff payload keep name).1 hname
  exact ⟨hmem, get_keeping hkeep⟩

theorem partOf_only (payload : Payload) (name : Text) : PartOf (payload.only name) payload :=
  partOf_keeping payload (by simp)

theorem mem_names_only {payload : Payload} {name : Text} (h : name ∈ payload.names) : name ∈ (payload.only name).names :=
  (mem_names_keeping_iff payload _ name).2 ⟨by simp, h⟩

variable {merged payload other : Payload}

/-- The first of two payloads is a part of what they are merged into. -/
theorem MergeOf.partOf_left (h : MergeOf merged payload other) : PartOf payload merged := by
  have hlookup : ∀ name ∈ payload.names, merged.lookup name = payload.lookup name := by
    intro name hname
    obtain ⟨v, hv⟩ := Option.isSome_iff_exists.1 ((Members.mem_names_iff payload name).1 hname)
    rw [h.lookup, hv, Option.some_or]
  refine ⟨?_, ?_⟩
  · intro name hname
    rw [Members.mem_names_iff, Members.get, Members.get, hlookup name hname, ← Members.mem_names_iff]
    exact ⟨hname, rfl⟩
  · rw [Members.get, Members.get, h.lookup, ← h.dateFormat, Option.or_self]

/-- What two payloads are merged into does not depend on which is the first. -/
theorem MergeOf.symm (h : MergeOf merged payload other) : MergeOf merged other payload := by
  refine ⟨fun name hname hname' => h.disjoint name hname' hname, h.dateFormat.symm, ?_⟩
  intro name
  rw [h.lookup]
  by_cases hname : name = dateFormatName
  · rw [hname, h.dateFormat]
  · cases hpayload : payload.lookup name with
    | none => simp
    | some v =>
      cases hother : other.lookup name with
      | none => simp
      | some w =>
        have hmem : name ∈ payload.names := by rw [Members.mem_names_iff, hpayload, Option.isSome_some]
        have hmem' : name ∈ other.names := by rw [Members.mem_names_iff, hother, Option.isSome_some]
        exact absurd (h.disjoint name hmem hmem') hname

theorem MergeOf.mem_names (h : MergeOf merged payload other) {name : Text} (hname : name ∈ merged.names) :
    name ∈ payload.names ∨ name ∈ other.names := by
  rw [Members.mem_names_iff, h.lookup, Option.isSome_or, Bool.or_eq_true] at hname
  rw [Members.mem_names_iff, Members.mem_names_iff]
  exact hname

end Payload

namespace Gate

/-- What a gate asks of a member of an update, where dates are read by a pattern. -/
structure AdmitsMember (g : Gate) (pattern name : Text) (raw : Value) : Prop where
  supported : name ∈ g.schema.supported
  dateFormat : name = Payload.dateFormatName → Payload.IsContext raw
  locale : name = Payload.localeName → Payload.IsContext raw
  fields : ∀ f ∈ g.schema.fields .update, f.name = name → f.Admits pattern raw

section Updates

variable {g : Gate} {payload part : Payload}

theorem isContext_get {name : Text} (h : name ∈ payload.names → Payload.IsContext (payload.get name)) :
    Payload.IsContext (payload.get name) := by
  by_cases hname : name ∈ payload.names
  · exact h hname
  · exact .inl (Members.get_of_not_mem hname)

/-- A payload updates exactly when the gate admits each of its members. -/
theorem validatePayload_update_eq_ok_iff (hnames : ∀ f ∈ g.schema.fields .update, f.name ≠ []) :
    g.validatePayload .update payload = .ok () ↔
      ∀ name ∈ payload.names, g.AdmitsMember (payload.effectiveFormat g.defaults) name (payload.get name) := by
  rw [validatePayload_eq_ok_iff_admits hnames]
  constructor
  · rintro ⟨hsound, hadmits⟩ name hname
    refine ⟨hsound.supported name hname, ?_, ?_, ?_⟩
    · rintro rfl
      exact hsound.dateFormat
    · rintro rfl
      exact hsound.locale
    · rintro f hf rfl
      exact hadmits f hf (.inr hname)
  · intro h
    refine ⟨⟨fun name hname => (h name hname).supported, ?_, ?_⟩, ?_⟩
    · exact isContext_get fun hname => (h _ hname).dateFormat rfl
    · exact isContext_get fun hname => (h _ hname).locale rfl
    · intro f hf hchecks
      exact (h f.name ((checks_update_iff payload f).1 hchecks)).fields f hf rfl

/-- A part of a payload has its date format. -/
theorem effectiveFormat_of_partOf (h : Payload.PartOf part payload) (defaults : Defaults) :
    part.effectiveFormat defaults = payload.effectiveFormat defaults := by
  rw [Payload.effectiveFormat, Payload.effectiveFormat, h.dateFormat]

/-- A part of a payload that updates updates. -/
theorem validatePayload_update_of_partOf (hnames : ∀ f ∈ g.schema.fields .update, f.name ≠ []) (hpart : Payload.PartOf part payload)
    (h : g.validatePayload .update payload = .ok ()) : g.validatePayload .update part = .ok () := by
  rw [validatePayload_update_eq_ok_iff hnames] at h ⊢
  intro name hname
  obtain ⟨hmem, hget⟩ := hpart.member name hname
  rw [effectiveFormat_of_partOf hpart, hget]
  exact h name hmem

/-- A payload whose every member stands in a part that updates updates. -/
theorem validatePayload_update_of_parts (hnames : ∀ f ∈ g.schema.fields .update, f.name ≠ [])
    (h : ∀ name ∈ payload.names, ∃ part, Payload.PartOf part payload ∧ name ∈ part.names ∧
      g.validatePayload .update part = .ok ()) : g.validatePayload .update payload = .ok () := by
  rw [validatePayload_update_eq_ok_iff hnames]
  intro name hname
  obtain ⟨part, hpart, hmem, hpasses⟩ := h name hname
  rw [← effectiveFormat_of_partOf hpart, ← (hpart.member name hmem).2]
  exact (validatePayload_update_eq_ok_iff hnames).1 hpasses name hmem

end Updates

/-- Updates taken apart and put together, in four parts, for a gate whose update fields have names.
1. A command updates exactly when the payload of its text does.
2. A payload updates exactly when, for each of its members, this member alone with the date format, if there is one, does.
3. A payload that updates still does when members are left out of it that are not the date format.
4. Two payloads that update and share no member but an equal date format can be merged into one that does. -/
theorem validate_update_iff_forall_only (g : Gate) (hnames : ∀ f ∈ g.schema.fields .update, f.name ≠ []) (payload : Payload) :
    (∀ text, Payload.read text = .ok payload →
        (g.validate .update text = .ok () ↔ g.validatePayload .update payload = .ok ())) ∧
      (g.validatePayload .update payload = .ok () ↔
        ∀ name ∈ payload.names, g.validatePayload .update (payload.only name) = .ok ()) ∧
      (∀ keep : Text → Bool, keep Payload.dateFormatName = true → g.validatePayload .update payload = .ok () →
        g.validatePayload .update (payload.keeping keep) = .ok ()) ∧
      ∀ other merged, Payload.MergeOf merged payload other → g.validatePayload .update payload = .ok () →
        g.validatePayload .update other = .ok () → g.validatePayload .update merged = .ok () := by
  refine ⟨?_, ⟨?_, ?_⟩, ?_, ?_⟩
  · intro text hread
    rw [validate_eq_of_read hread]
  · intro h name _
    exact validatePayload_update_of_partOf hnames (Payload.partOf_only payload name) h
  · intro h
    refine validatePayload_update_of_parts hnames ?_
    intro name hname
    exact ⟨payload.only name, Payload.partOf_only payload name, Payload.mem_names_only hname, h name hname⟩
  · intro keep hkeep h
    exact validatePayload_update_of_partOf hnames (Payload.partOf_keeping payload hkeep) h
  · intro other merged hmerged h hother
    refine validatePayload_update_of_parts hnames ?_
    intro name hname
    rcases hmerged.mem_names hname with hmem | hmem
    · exact ⟨payload, hmerged.partOf_left, hmem, h⟩
    · exact ⟨other, hmerged.symm.partOf_left, hmem, hother⟩

/-- An update of an office with a date format, a day that it reads and funds. -/
def dayAndFunds : Payload :=
  [("dateFormat", .str "dd.MM.yyyy"), ("openingDate", .str "31.12.2020"), ("funds", .int 5)]

/-- An update of an office with a name that is told under the same date format. -/
def formatAndName : Payload := [("dateFormat", .str "dd.MM.yyyy"), ("name", .str "Main")]

/-- Both updates in one. -/
def dayFundsAndName : Payload := List.append dayAndFunds [("name", .str "Main")]

/-- Both updates share the date format alone. -/
theorem mergeOf_dayFundsAndName : Payload.MergeOf dayFundsAndName dayAndFunds formatAndName := by
  refine ⟨by decide, rfl, ?_⟩
  intro name
  have happend : dayFundsAndName.lookup name = (dayAndFunds.lookup name).or (List.lookup name [("name", .str "Main")]) :=
    List.lookup_append
  rw [happend]
  by_cases h : name = Payload.dateFormatName
  · subst h
    rfl
  · have hskip : formatAndName.lookup name = List.lookup name [("name", .str "Main")] := by
      have hname : (name == ("dateFormat" : Text)) = false := beq_eq_false_iff_ne.2 h
      rw [formatAndName, List.lookup_cons, hname]
    rw [hskip]

/-- The update passes, and so do its parts, what is left of it without the day, and what it is merged into with a name. -/
theorem office_update_parts :
    office.validate .update
        (some ("\x7b\"dateFormat\": \"dd.MM.yyyy\", \"openingDate\": \"31.12.2020\", \"funds\": 5\x7d" : Text)) = .ok () ∧
      (∀ name ∈ dayAndFunds.names, office.validatePayload .update (dayAndFunds.only name) = .ok ()) ∧
      office.validatePayload .update (dayAndFunds.keeping fun name => decide (name ≠ "openingDate")) = .ok () ∧
      office.validatePayload .update dayFundsAndName = .ok () := by
  have hread : Payload.read
      (some ("\x7b\"dateFormat\": \"dd.MM.yyyy\", \"openingDate\": \"31.12.2020\", \"funds\": 5\x7d" : Text)) =
        .ok dayAndFunds := by cbv
  have hpasses : office.validatePayload .update dayAndFunds = .ok () := eq_ok_of_isOk (by decide +kernel)
  have hother : office.validatePayload .update formatAndName = .ok () := eq_ok_of_isOk (by decide +kernel)
  obtain ⟨htext, hparts, hkeeping, hmerged⟩ := validate_update_iff_forall_only office (by decide) dayAndFunds
  refine ⟨(htext _ hread).2 hpasses, hparts.1 hpasses, hkeeping _ (by decide) hpasses, ?_⟩
  exact hmerged _ _ mergeOf_dayFundsAndName hpasses hother

end Gate

end Admission
