import Admission.Proofs.Json.Reading
import Admission.Proofs.Pass

/-!
# The language of payloads

What a text is read as a payload, against the grammar of JSON. White space comes in two kinds here: only that of JSON may stand around
the object, but a text is called empty when it is blank in the wide sense. The two agree, because no object is blank.
-/

namespace Admission

namespace Payload

/-- A document of an object is not blank. -/
theorem isBlank_eq_false_of_isDocument {text : Text} {members : Members} (h : Json.IsDocument text (.dict members)) :
    text.isBlank = false := by
  obtain ⟨before, s, after, rfl, -, -, hdenotes⟩ := h
  cases hdenotes with
  | number _ hmeans => cases hmeans
  | object _ _ =>
    have hbrace : CodePoint.isBlank '\x7b' = false := by decide
    simp [Text.isBlank, hbrace]

/-- A text is read as a payload exactly when it is read as an object. -/
theorem read_eq_ok_iff_read (t : Text) (payload : Payload) :
    Payload.read (some t) = .ok payload ↔ Json.read t = .ok (.dict payload) := by
  constructor
  · intro h
    simp only [Payload.read] at h
    split at h
    · cases h
    · split at h
      · next members hread =>
        cases h
        exact hread
      · cases h
      · cases h
  · intro h
    have hblank := isBlank_eq_false_of_isDocument (Json.isDocument_of_read h)
    simp only [Payload.read, hblank, Bool.false_eq_true, if_false, h]

/-- What is read as a payload is the object of a document. -/
theorem isDocument_of_read {text : Option Text} {payload : Payload} (h : Payload.read text = .ok payload) :
    ∃ t, text = some t ∧ Json.IsDocument t (.dict payload) := by
  cases text with
  | none => cases h
  | some t => exact ⟨t, rfl, Json.isDocument_of_read ((read_eq_ok_iff_read t payload).1 h)⟩

/-- A document of an object whose nesting is within the limit is read as the payload of that object. -/
theorem read_of_isDocument {t : Text} {payload : Payload} (h : Json.IsDocument t (.dict payload))
    (hnesting : Json.nesting t ≤ nestingLimit) : Payload.read (some t) = .ok payload :=
  (read_eq_ok_iff_read t payload).2 (Json.read_of_isDocument h hnesting)

/-- A text in which brackets stand at most 150 deep in one another is read as a payload exactly when it is a document of an object, and
then as that object. Everything else, no text at all as well, is rejected as malformed. -/
theorem read_eq_ok_iff_isDocument (text : Option Text) (hnesting : ∀ t ∈ text, Json.nesting t ≤ 150) :
    (∀ payload, Payload.read text = .ok payload ↔ ∃ t, text = some t ∧ Json.IsDocument t (.dict payload)) ∧
      ((¬ ∃ t payload, text = some t ∧ Json.IsDocument t (.dict payload)) →
        ∃ reason, Payload.read text = .error (.rejected (.malformedPayload reason))) := by
  have hread : ∀ payload, Payload.read text = .ok payload ↔ ∃ t, text = some t ∧ Json.IsDocument t (.dict payload) := by
    intro payload
    constructor
    · exact isDocument_of_read
    · rintro ⟨t, rfl, h⟩
      have hlimit : 150 ≤ nestingLimit := by decide
      exact read_of_isDocument h ((hnesting t rfl).trans hlimit)
  refine ⟨hread, ?_⟩
  intro hnone
  cases hresult : Payload.read text with
  | ok payload =>
    obtain ⟨t, ht⟩ := (hread payload).1 hresult
    exact absurd ⟨t, payload, ht⟩ hnone
  | error e =>
    obtain ⟨reason, rfl⟩ := Gate.read_error hresult
    exact ⟨reason, rfl⟩

/-- A text with white space around its object, in which a name is repeated, a list nests an object, two halves of a pair are escaped
side by side and a third stands alone. -/
def sample : Text := "\t\x7b\"a\": 1, \"b\": \"\\ud83d\\ude00\\ud83d\", \"a\": [-25, \x7b\x7d]\x7d\r\n"

/-- The repeated name has its first place and its last value, the pair is one code point, and the half is itself. -/
theorem read_sample :
    Json.nesting sample ≤ 150 ∧
      Payload.read (some sample) =
        .ok [("a", .list [.int (-25), .dict []]), ("b", .str [⟨0x1F600, by decide⟩, ⟨0xD83D, by decide⟩])] ∧
      Json.IsDocument sample
        (.dict [("a", .list [.int (-25), .dict []]), ("b", .str [⟨0x1F600, by decide⟩, ⟨0xD83D, by decide⟩])]) := by
  have hnesting : Json.nesting sample ≤ 150 := by decide +kernel
  have hread : Payload.read (some sample) =
      .ok [("a", .list [.int (-25), .dict []]), ("b", .str [⟨0x1F600, by decide⟩, ⟨0xD83D, by decide⟩])] := by cbv
  have hbound : ∀ t ∈ some sample, Json.nesting t ≤ 150 := by
    rintro t ⟨⟩
    exact hnesting
  obtain ⟨t, ⟨⟩, hdocument⟩ := ((read_eq_ok_iff_isDocument _ hbound).1 _).1 hread
  exact ⟨hnesting, hread, hdocument⟩

end Payload

end Admission
