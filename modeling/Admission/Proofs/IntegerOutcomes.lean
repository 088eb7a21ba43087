import Admission.Proofs.Extraction

/-!
# How reading an integer from a text can end

A text that is read as an integer is blank, and gives nothing, or spells an integer, and gives it, or is malformed. One fault escapes
this rule: a text that spells an integer in more digits than one may have is neither read nor malformed, even where the digits are
zeros in front (`integerField_of_text`).
-/

namespace Admission

namespace Payload

theorem integerField_eq {name : Text} (hname : name ≠ []) (payload : Payload) :
    payload.integerField name = integerOf name (payload.get name) := by
  rw [integerField, checkName, if_neg hname]
  rfl

theorem integerOf_of_isBlank {s : Text} (h : s.isBlank = true) (name : Text) : integerOf name (.str s) = .ok none := by
  rw [integerOf, if_pos ((Text.strip_eq_nil_iff s).2 h)]

theorem not_spells_of_isBlank {s : Text} (h : s.isBlank = true) (sign digits : Text) : ¬ s.strip.Spells sign digits :=
  fun hspells => hspells.text_ne_nil ((Text.strip_eq_nil_iff s).2 h)

/-- How a text is read as an integer, in four parts: each of the four ends has its own condition, and every text meets one of these.
1. It gives nothing exactly when it is blank.
2. It gives an integer exactly when it spells the integer, with blanks around or without, in no more digits than one may have.
3. It ends in a fault that no client is told exactly when it spells an integer in more digits; how many they are is all that counts.
4. It is malformed, under its own name and with its raw value, exactly when it is not blank and spells no integer. -/
theorem integerField_of_text (payload : Payload) (name s : Text) (hname : name ≠ []) (hvalue : payload.get name = .str s) :
    (payload.integerField name = .ok none ↔ s.isBlank = true) ∧
      (∀ n, payload.integerField name = .ok (some n) ↔
        ∃ sign digits : Text, s.strip.Spells sign digits ∧ digits.length ≤ digitLimit ∧ n = Text.intOf sign digits) ∧
      (∀ count, payload.integerField name = .error (.tooManyDigits count) ↔
        ∃ sign digits : Text, s.strip.Spells sign digits ∧ digits.length = count ∧ digitLimit < count) ∧
      (payload.integerField name = .error (.rejected (.malformedField name (.str s) "integer")) ↔
        s.isBlank = false ∧ ¬ ∃ sign digits : Text, s.strip.Spells sign digits) := by
  rw [integerField_eq hname, hvalue]
  cases hblank : s.isBlank with
  | true =>
    have hnone := not_spells_of_isBlank hblank
    rw [integerOf_of_isBlank hblank]
    simp [hnone]
  | false =>
    rw [integerOf, if_neg ((Text.strip_ne_nil_iff s).2 hblank)]
    simp only [← Text.readSigned_eq_ok_iff, ← Text.readSigned_eq_tooManyDigits_iff, ← Text.readSigned_eq_notInteger_iff]
    cases s.strip.readSigned with
    | ok n => simp
    | error e => cases e <;> simp [FieldKind.name]

/-- Three texts as seats, a price and a floor: full-width digits behind a plus with blanks around, a comma between digits, and blanks
alone. -/
def threeTexts : Payload :=
  [("seats", .str [⟨0x3000, by decide⟩, CodePoint.ofChar '+', ⟨0xFF10, by decide⟩, ⟨0xFF14, by decide⟩, CodePoint.ofChar '\n']),
    ("price", .str "4,5"), ("floor", .str " \t")]

/-- The first of the texts gives an integer, the second is malformed, and the third gives nothing. -/
theorem integerField_three_texts :
    threeTexts.integerField "seats" = .ok (some 4) ∧
      threeTexts.integerField "price" = .error (.rejected (.malformedField "price" (.str "4,5") "integer")) ∧
      threeTexts.integerField "floor" = .ok none := by
  have hseats : Text.Spells [CodePoint.ofChar '+', ⟨0xFF10, by decide⟩, ⟨0xFF14, by decide⟩] "+"
      [⟨0xFF10, by decide⟩, ⟨0xFF14, by decide⟩] := ⟨rfl, by decide, by decide, by decide⟩
  have hprice : ¬ ∃ sign digits : Text, Text.Spells (Text.strip "4,5") sign digits := by
    rw [← Text.readSigned_eq_notInteger_iff]
    rfl
  refine ⟨?_, ?_, ?_⟩
  · exact ((integerField_of_text threeTexts "seats" _ (by decide) rfl).2.1 4).2 ⟨_, _, hseats, by decide, rfl⟩
  · exact (integerField_of_text threeTexts "price" _ (by decide) rfl).2.2.2.2 ⟨by decide, hprice⟩
  · exact (integerField_of_text threeTexts "floor" _ (by decide) rfl).1.2 (by decide)

/-- A zero that is written in one digit more than an integer may have. -/
def longZero : Text := List.replicate 4301 (CodePoint.ofChar '0')

/-- The text spells zero, but it gives neither zero nor a malformed field. -/
theorem integerField_long_zero :
    longZero.strip.Spells [] longZero ∧ Text.intOf [] longZero = 0 ∧
      Payload.integerField [("f", .str longZero)] "f" = .error (.tooManyDigits 4301) ∧
      Payload.integerField [("f", .str longZero)] "f" ≠ .ok (some 0) ∧
      Payload.integerField [("f", .str longZero)] "f" ≠ .error (.rejected (.malformedField "f" (.str longZero) "integer")) := by
  have hzero : ∀ c ∈ longZero, c.digit? = some 0 := by
    intro c hc
    rw [List.eq_of_mem_replicate hc]
    decide
  have hdigit : ∀ c ∈ longZero, c.isDigit = true := fun c hc => by rw [CodePoint.isDigit, hzero c hc, Option.isSome_some]
  have hlength : longZero.length = 4301 := List.length_replicate
  have hne : longZero ≠ [] := List.ne_nil_of_length_pos (by omega)
  have hspells : longZero.Spells [] longZero := ⟨rfl, .inl rfl, hne, hdigit⟩
  have hstrip : longZero.strip = longZero := Text.trim_of_forall fun c hc => CodePoint.isBlank_of_isDigit (hdigit c hc)
  have hvalue : Text.intOf [] longZero = 0 := by
    have hdigits : longZero.filterMap CodePoint.digit? = List.replicate 4301 0 ++ [] := by
      rw [List.append_nil, longZero]
      exact List.filterMap_replicate_of_some (hzero _ (List.mem_replicate.2 ⟨by decide, rfl⟩))
    rw [Text.intOf, hdigits, ofDigits_zeros_append]
    rfl
  have hread : Payload.integerField [("f", .str longZero)] "f" = .error (.tooManyDigits 4301) := by
    have hget : Members.get [("f", .str longZero)] "f" = .str longZero := rfl
    rw [integerField_eq (by decide), hget, integerOf, hstrip, if_neg hne, Text.readSigned_of_spells hspells, hlength,
      if_pos (by decide)]
  refine ⟨hstrip.symm ▸ hspells, hvalue, hread, ?_, ?_⟩
  · rw [hread]
    intro h
    cases h
  · rw [hread]
    intro h
    cases h

end Payload

end Admission
