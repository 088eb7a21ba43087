import Admission.Proofs.Decision

/-!
# Each field is judged by its own value

What a decision says of a field depends on whether the payload has the field, on its raw value and on the raw value of the date
format, and on nothing else that the payload holds (`violations_at_eq`).
-/

namespace Admission

/-- The violations at a field, in order. -/
def violationsAt (name : Text) (violations : List Violation) : List Violation :=
  violations.filter fun v => decide (v.field = name)

namespace Payload

/-- Two payloads agree about a field: both have it or neither has, and its raw value and that of the date format are the same in
both. -/
structure AgreeAbout (name : Text) (payload other : Payload) : Prop where
  has : payload.has name = other.has name
  raw : payload.get name = other.get name
  dateFormat : payload.get dateFormatName = other.get dateFormatName

variable {name : Text} {payload other : Payload}

theorem AgreeAbout.dateFormat_eq (h : AgreeAbout name payload other) (defaults : Defaults) :
    payload.dateFormat defaults = other.dateFormat defaults := by
  unfold Payload.dateFormat contextText
  rw [h.dateFormat]

theorem AgreeAbout.extract_eq (h : AgreeAbout name payload other) (defaults : Defaults) (kind : FieldKind) :
    payload.extract defaults kind name = other.extract defaults kind name := by
  cases kind with
  | string => simp only [extract, textField, h.raw]
  | integer => simp only [extract, integerField, h.raw]
  | date => simp only [extract, dateField, h.raw, h.dateFormat_eq defaults]

end Payload

namespace Gate

section Fields

variable {g : Gate} {mode : Mode} {payload other : Payload} {name : Text}

theorem checks_iff_of_agreeAbout {f : Field} (h : Payload.AgreeAbout f.name payload other) :
    Checks mode payload f ↔ Checks mode other f := by
  rw [checks_iff, checks_iff, h.has]

theorem deserved_eq_of_agreeAbout {f : Field} (h : Payload.AgreeAbout f.name payload other) :
    g.deserved payload f = g.deserved other f := by
  unfold deserved
  rw [h.extract_eq]

/-- What a field deserves stands at no other field. -/
theorem violationsAt_deserved_other {f : Field} (h : f.name ≠ name) : violationsAt name (g.deserved payload f) = [] := by
  refine List.filter_eq_nil_iff.2 fun v hv hat => ?_
  have hfield : v.field = name := of_decide_eq_true hat
  exact h ((field_eq_of_mem_deserved hv).symm.trans hfield)

/-- The violations that some fields of a payload deserve, where these are checked. -/
def deservedBy (g : Gate) (mode : Mode) (payload : Payload) (fields : List Field) : List Violation :=
  (fields.filter fun f => decide (Checks mode payload f)).flatMap (g.deserved payload)

/-- One field more adds what it deserves, where it is checked. -/
theorem deservedBy_cons (g : Gate) (mode : Mode) (payload : Payload) (f : Field) (rest : List Field) :
    g.deservedBy mode payload (f :: rest) =
      (if Checks mode payload f then g.deserved payload f else []) ++ g.deservedBy mode payload rest := by
  unfold deservedBy
  by_cases h : Checks mode payload f
  · simp only [List.filter_cons, h, decide_true, if_true, List.flatMap_cons]
  · simp only [List.filter_cons, h, decide_false, Bool.false_eq_true, if_false, List.nil_append]

/-- One field more adds to the violations at a name only when it has that name, and then the same in two payloads that agree
about it. -/
theorem violationsAt_one_eq (h : Payload.AgreeAbout name payload other) (f : Field) :
    violationsAt name (if Checks mode payload f then g.deserved payload f else []) =
      violationsAt name (if Checks mode other f then g.deserved other f else []) := by
  by_cases hname : f.name = name
  · subst hname
    rw [deserved_eq_of_agreeAbout h]
    by_cases hchecks : Checks mode payload f
    · rw [if_pos hchecks, if_pos ((checks_iff_of_agreeAbout h).1 hchecks)]
    · rw [if_neg hchecks, if_neg fun hother => hchecks ((checks_iff_of_agreeAbout h).2 hother)]
  · have hnone : ∀ (p : Payload), violationsAt name (if Checks mode p f then g.deserved p f else []) = [] := by
      intro p
      split
      · exact violationsAt_deserved_other hname
      · rfl
    rw [hnone, hnone]

/-- The violations at a name that some fields deserve are the same in two payloads that agree about it. The induction is on the
fields, in the order in which they are visited. -/
theorem violationsAt_deservedBy_eq (h : Payload.AgreeAbout name payload other) (fields : List Field) :
    violationsAt name (g.deservedBy mode payload fields) = violationsAt name (g.deservedBy mode other fields) := by
  induction fields with
  | nil => rfl
  | cons f rest ih =>
    have hone : violationsAt name (if Checks mode payload f then g.deserved payload f else []) =
        violationsAt name (if Checks mode other f then g.deserved other f else []) := violationsAt_one_eq h f
    unfold violationsAt at hone ih ⊢
    rw [deservedBy_cons, deservedBy_cons, List.filter_append, List.filter_append, hone, ih]

end Fields

/-- Two passes of one gate in one mode that both decide, over commands whose payloads agree about a field, decide on the same
violations at that field: the same rules, values and limits, in the same order. -/
theorem violations_at_eq (g : Gate) (mode : Mode) (name : Text) (text otherText : Option Text) (payload other : Payload)
    (violations others : List Violation) (hread : Payload.read text = .ok payload) (hother : Payload.read otherText = .ok other)
    (hdecides : Decides g.schema.resource (g.validate mode text) violations)
    (hdecidesOther : Decides g.schema.resource (g.validate mode otherText) others)
    (hagree : Payload.AgreeAbout name payload other) : violationsAt name violations = violationsAt name others := by
  rw [validate_eq, hread] at hdecides
  rw [validate_eq, hother] at hdecidesOther
  obtain ⟨-, -, -, rfl⟩ := of_examinePayload_eq_ok (examinePayload_of_decides hdecides)
  obtain ⟨-, -, -, rfl⟩ := of_examinePayload_eq_ok (examinePayload_of_decides hdecidesOther)
  exact violationsAt_deservedBy_eq hagree (g.schema.fields mode)

/-- Two rooms of no seats, one without a code and one with too long a code: the passes decide on different violations, and the same
one stands at the seats of both. -/
theorem room_violations_at_seats :
    Decides "room" (room.validate .create (some ("\x7b\"seats\": 0\x7d" : Text)))
        [Rule.notBlank.violation "room" "code" .null, Rule.positive.violation "room" "seats" (.int 0)] ∧
      Decides "room" (room.validate .create (some ("\x7b\"code\": \"R0001\", \"seats\": 0\x7d" : Text)))
        [(Rule.maxLength 4).violation "room" "code" (.str "R0001"), Rule.positive.violation "room" "seats" (.int 0)] ∧
      violationsAt "seats"
          [Rule.notBlank.violation "room" "code" .null, Rule.positive.violation "room" "seats" (.int 0)] =
        violationsAt "seats"
          [(Rule.maxLength 4).violation "room" "code" (.str "R0001"), Rule.positive.violation "room" "seats" (.int 0)] := by
  have hread : Payload.read (some ("\x7b\"seats\": 0\x7d" : Text)) = .ok [("seats", .int 0)] := by cbv
  have hother : Payload.read (some ("\x7b\"code\": \"R0001\", \"seats\": 0\x7d" : Text)) =
      .ok [("code", .str "R0001"), ("seats", .int 0)] := by cbv
  have hfound : room.examinePayload .create [("seats", .int 0)] =
      .ok [Rule.notBlank.violation "room" "code" .null, Rule.positive.violation "room" "seats" (.int 0)] := by
    rw [examinePayload_of_sound ⟨by decide, .inl rfl, .inl rfl⟩]
    rfl
  have hfoundOther : room.examinePayload .create [("code", .str "R0001"), ("seats", .int 0)] =
      .ok [(Rule.maxLength 4).violation "room" "code" (.str "R0001"), Rule.positive.violation "room" "seats" (.int 0)] := by
    rw [examinePayload_of_sound ⟨by decide, .inl rfl, .inl rfl⟩]
    rfl
  have hdecides : Decides "room" (room.validate .create (some ("\x7b\"seats\": 0\x7d" : Text)))
      [Rule.notBlank.violation "room" "code" .null, Rule.positive.violation "room" "seats" (.int 0)] := by
    rw [validate_eq, hread]
    exact decides_of_examinePayload (room_reportable .create) (room_hasShortLimits .create) hfound
  have hdecidesOther : Decides "room" (room.validate .create (some ("\x7b\"code\": \"R0001\", \"seats\": 0\x7d" : Text)))
      [(Rule.maxLength 4).violation "room" "code" (.str "R0001"), Rule.positive.violation "room" "seats" (.int 0)] := by
    rw [validate_eq, hother]
    exact decides_of_examinePayload (room_reportable .create) (room_hasShortLimits .create) hfoundOther
  exact ⟨hdecides, hdecidesOther,
    violations_at_eq room .create "seats" _ _ _ _ _ _ hread hother hdecides hdecidesOther ⟨by decide, rfl, rfl⟩⟩

end Gate

end Admission
