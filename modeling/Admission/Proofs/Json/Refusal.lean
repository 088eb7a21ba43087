import Admission.Payload.Basic
import Admission.Proofs.Json.Numbers
import Admission.Proofs.Json.Strings
import Admission.Proofs.Traversal
import Admission.Proofs.WellFormed

/-!
# What is told of a text that is not read

The reason why a text is not read quotes no text of it but the words for numbers that are none, and numbers. So it is well formed
whatever stands in the text, and a client can always be told it (`isWellFormed_of_read`).
-/

namespace Admission

namespace Json

/-- What an error quotes of a text is well formed. -/
def Error.IsPlain : Error → Prop
  | .constant token => token.isWellFormed = true
  | .outOfRange token => token.isWellFormed = true
  | .problem .. | .tooManyDigits _ | .tooDeep => True

theorem isWellFormed_problem (kind : Problem) (text rest : Text) : (kind.at text rest).isWellFormed = true := by
  have hkind : kind.text.isWellFormed = true := by cases kind <;> exact Text.isWellFormed_ofString _
  simp [Problem.at, Text.isWellFormed_concat, Text.isWellFormed_ofString, Text.isWellFormed_ofNat, hkind]

/-- The reason of an error that quotes well-formed texts is well formed. -/
theorem Error.IsPlain.isWellFormed_reason {e : Error} (h : e.IsPlain) (text : Text) : (e.reason text).isWellFormed = true := by
  cases e with
  | problem kind rest => exact isWellFormed_problem kind text rest
  | tooManyDigits count =>
    simp [reason, Text.tooManyDigits, Text.beyondDigitLimit, Text.isWellFormed_concat, Text.isWellFormed_ofString,
      Text.isWellFormed_ofNat]
  | constant token =>
    have htoken : token.isWellFormed = true := h
    simp [reason, Text.isWellFormed_concat, Text.isWellFormed_ofString, htoken]
  | outOfRange token =>
    have htoken : token.isWellFormed = true := h
    simp [reason, Text.isWellFormed_concat, Text.isWellFormed_ofString, htoken]
  | tooDeep => exact Text.isWellFormed_ofString _

/-- A written number is well formed. -/
theorem Numeral.IsWritten.isWellFormed {n : Numeral} (h : n.IsWritten) : n.token.isWellFormed = true := by
  rw [Text.isWellFormed_iff]
  intro c hc
  rcases h.mem_token hc with hdigit | hmark
  · simp only [CodePoint.isAsciiDigit, CodePoint.asciiDigit?, Option.isSome_ite] at hdigit
    rw [CodePoint.isSurrogate, decide_eq_false_iff_not]
    omega
  · rcases hmark with rfl | rfl | rfl | rfl | rfl <;> exact Text.isSurrogate_ofChar _

/-- Every error of a reader quotes well-formed texts. -/
def RefusesPlainly {α : Type} (reader : Text → Except Error (α × Text)) : Prop :=
  ∀ {s : Text} {e : Error}, reader s = .error e → e.IsPlain

theorem readString_refuses (opening : Text) : RefusesPlainly (readString opening) := by
  intro s e h
  obtain ⟨kind, place, rfl⟩ := exists_problem_of_readString h
  trivial

/-- A word that is no value quotes itself. -/
theorem isPlain_of_readWord? {s rest : Text} {e : Error} (h : readWord? s = some (.error e, rest)) : e.IsPlain := by
  obtain ⟨word, -, hw⟩ := mem_wordValues_of_readWord? h
  simp only [wordValues, List.mem_cons, List.not_mem_nil, or_false] at hw
  rcases hw with heq | heq | heq | heq | heq | heq
  · cases heq
  · cases heq
  · cases heq
  · cases heq
    exact Text.isWellFormed_ofString _
  · cases heq
    exact Text.isWellFormed_ofString _
  · cases heq
    exact Text.isWellFormed_ofString _

/-- A written number without a value is too long, or quotes itself. -/
theorem Numeral.IsWritten.isPlain_of_value {n : Numeral} {e : Error} (hn : n.IsWritten) (h : n.value = .error e) : e.IsPlain := by
  unfold value at h
  split at h
  · split at h
    · cases h
      trivial
    · cases h
  · dsimp only at h
    split at h
    · cases h
    · cases h
      exact hn.isWellFormed

/-- A scalar that is not read is a word for no number, a number without a value, or nothing that begins a value. -/
theorem readScalar_refuses : RefusesPlainly readScalar := by
  intro s e h
  unfold readScalar at h
  split at h
  · cases h
  · next hword =>
    cases h
    exact isPlain_of_readWord? hword
  · split at h
    · cases h
      trivial
    · next n rest hspan =>
      exact (isWritten_of_spanNumeral hspan).1.isPlain_of_value ((map_eq_error_iff _ _ _).1 h)

/-- The loop over items refuses as its items do, or for what stands between them. -/
theorem readItems_refuses {α : Type} {item : Text → Except Error (α × Text)} (hitem : RefusesPlainly item) (close : CodePoint)
    (rounds : Nat) : RefusesPlainly (readItems item close rounds) := by
  intro s e h
  induction rounds generalizing s with
  | zero =>
    cases h
    trivial
  | succ rounds ih =>
    rw [readItems] at h
    split at h
    · next hfirst =>
      cases h
      exact hitem hfirst
    · split at h
      · cases h
        trivial
      · split at h
        · cases h
        · split at h
          · split at h
            · next hothers =>
              cases h
              exact ih hothers
            · cases h
          · cases h
            trivial

/-- What stands between brackets is refused as its items are, or for what stands between them. -/
theorem readSequence_refuses {α : Type} {item : Text → Except Error (α × Text)} (hitem : RefusesPlainly item) (close : CodePoint) :
    RefusesPlainly (readSequence item close) := by
  intro s e h
  unfold readSequence at h
  split at h
  · exact readItems_refuses hitem close _ h
  · split at h
    · cases h
    · exact readItems_refuses hitem close _ h

/-- A member is refused as its name and its value are, or for what stands between them. -/
theorem readMember_refuses {value : Text → Except Error (Value × Text)} (hvalue : RefusesPlainly value) :
    RefusesPlainly (readMember value) := by
  intro s e h
  unfold readMember at h
  split at h
  · cases h
    trivial
  · split at h
    · split at h
      · next hname =>
        cases h
        exact readString_refuses _ hname
      · split at h
        · cases h
          trivial
        · split at h
          · split at h
            · next hv =>
              cases h
              exact hvalue hv
            · cases h
          · cases h
            trivial
    · cases h
      trivial

/-- Every value that is not read is refused with an error that quotes well-formed texts, at whatever nesting that is allowed. -/
theorem readValue_refuses (depth : Nat) : RefusesPlainly (readValue depth) := by
  induction depth using Nat.strongRecOn with
  | ind depth ih =>
    intro s e h
    rw [readValue.eq_def] at h
    split at h
    · cases h
      trivial
    · split at h
      · exact readString_refuses _ ((map_eq_error_iff _ _ _).1 h)
      · split at h
        · split at h
          · cases h
            trivial
          · next inner =>
            exact readSequence_refuses (ih inner (Nat.lt_succ_self inner)) _ ((map_eq_error_iff _ _ _).1 h)
        · split at h
          · split at h
            · cases h
              trivial
            · next inner =>
              exact readSequence_refuses (readMember_refuses (ih inner (Nat.lt_succ_self inner))) _
                ((map_eq_error_iff _ _ _).1 h)
          · exact readScalar_refuses h

/-- A text that is not read is refused with an error that quotes well-formed texts. -/
theorem isPlain_of_read {text : Text} {e : Error} (h : read text = .error e) : e.IsPlain := by
  unfold read at h
  split at h
  · cases h
    trivial
  · split at h
    · next hvalue =>
      cases h
      exact readValue_refuses _ hvalue
    · split at h
      · cases h
      · cases h
        trivial

end Json

/-- The reason for which a payload is malformed is well formed. -/
theorem Payload.isWellFormed_of_read {text : Option Text} {reason : Text}
    (h : Payload.read text = .error (.rejected (.malformedPayload reason))) : reason.isWellFormed = true := by
  unfold Payload.read at h
  split at h
  · cases h
    exact Text.isWellFormed_ofString _
  · split at h
    · cases h
      exact Text.isWellFormed_ofString _
    · split at h
      · cases h
      · cases h
        exact Text.isWellFormed_ofString _
      · next hread =>
        cases h
        exact (Json.isPlain_of_read hread).isWellFormed_reason _

end Admission
