import Admission.Payload.Basic
import Admission.Proofs.Json.Reading
import Mathlib.Data.List.Basic

/-!
# Words for numbers that are none are final

The reader goes through a text from the left. Where it meets a word for a number that is none, all that stands in front has been
decided, and what stands behind is not looked at any more. So a text that is refused for such a word stays refused for it whatever
it goes on with (`Payload.read_append_of_refused`).

Two properties of a reader carry this through lists and objects. What it takes it takes again where the text goes on
(`ReadsOnly` with `Taken`), so that it comes to the same place as before; and the word it meets there it meets again (`Decisive`).
-/

namespace Admission

namespace Json

theorem skipSpace_append_of_eq {s behind : Text} {c : CodePoint} (h : skipSpace s = c :: behind) (rest : Text) :
    skipSpace (s ++ rest) = c :: (behind ++ rest) := by
  have hne : ¬ (s.dropWhile isSpace).isEmpty = true := by
    rw [show s.dropWhile isSpace = c :: behind from h]
    simp
  rw [skipSpace, List.dropWhile_append, if_neg hne, show s.dropWhile isSpace = c :: behind from h, List.cons_append]

theorem ne_nil_of_skipSpace {s behind : Text} {c : CodePoint} (h : skipSpace s = c :: behind) : s ≠ [] := by
  rintro rfl
  cases h

/-- A reader that meets a word for no number meets it whatever the text goes on with. There is none to meet in an empty text. -/
def Decisive {α : Type} (reader : Text → Except Error (α × Text)) : Prop :=
  ∀ {s token : Text}, reader s = .error (.constant token) → s ≠ [] ∧ ∀ rest, reader (s ++ rest) = .error (.constant token)

/-! ## Strings and scalars -/

theorem readString_ne_constant (opening s token : Text) : readString opening s ≠ .error (.constant token) := by
  intro h
  obtain ⟨kind, place, heq⟩ := exists_problem_of_readString h
  cases heq

/-- A word for no number in front of a text is read whatever stands behind it. -/
theorem readWord?_constant_append {word token : Text} (h : (word, Except.error (.constant token)) ∈ wordValues) (rest : Text) :
    readWord? (word ++ rest) = some (.error (.constant token), rest) := by
  simp only [wordValues, List.mem_cons, List.not_mem_nil, or_false, Prod.mk.injEq, Except.error.injEq, Error.constant.injEq,
    reduceCtorEq, and_false, false_or] at h
  rcases h with ⟨rfl, rfl⟩ | ⟨rfl, rfl⟩ | ⟨rfl, rfl⟩ <;> rfl

/-- A number has a value, too many digits, or too great a value for a binary one. -/
theorem Numeral.value_ne_constant (n : Numeral) (token : Text) : n.value ≠ .error (.constant token) := by
  unfold value
  intro h
  split at h
  · split at h <;> cases h
  · dsimp only at h
    split at h <;> cases h

/-- A scalar is a word for no number exactly when such a word stands in front. -/
theorem readScalar_eq_constant_iff (s token : Text) :
    readScalar s = .error (.constant token) ↔ ∃ rest, readWord? s = some (.error (.constant token), rest) := by
  rw [readScalar]
  constructor
  · intro h
    split at h
    · cases h
    · next e rest hword =>
      cases h
      exact ⟨rest, hword⟩
    · split at h
      · cases h
      · next n rest _ => exact absurd ((map_eq_error_iff _ _ _).1 h) (n.value_ne_constant token)
  · rintro ⟨rest, hword⟩
    rw [hword]

/-- The reader of scalars is decisive. -/
theorem decisive_readScalar : Decisive readScalar := by
  intro s token h
  obtain ⟨behind, hread⟩ := (readScalar_eq_constant_iff s token).1 h
  obtain ⟨word, rfl, hword⟩ := mem_wordValues_of_readWord? hread
  refine ⟨?_, ?_⟩
  · intro hnil
    rw [hnil] at hread
    cases hread
  · intro rest
    rw [readScalar_eq_constant_iff, List.append_assoc]
    exact ⟨_, readWord?_constant_append hword _⟩

/-! ## What is taken is taken again -/

section Items

variable {α : Type} {item : Text → Except Error (α × Text)} {close : CodePoint}

/-- An item with an end behind it is taken again where the text goes on. -/
theorem ReadsOnly.append {s behind others : Text} {x : α} {c : CodePoint} (hitem : ReadsOnly item (Taken item))
    (h : item s = .ok (x, behind)) (hskip : skipSpace behind = c :: others) (hc : IsEnd c) (rest : Text) :
    item (s ++ rest) = .ok (x, behind ++ rest) := by
  obtain ⟨body, rfl, htaken⟩ := hitem h
  obtain ⟨before, hbefore, hbehind⟩ := exists_isSpace_of_skipSpace behind
  have hend : Begins IsEnd (behind ++ rest) := by
    rw [hbehind, hskip, List.append_assoc]
    exact hbefore.begins_append ((begins_cons _ _ _).2 hc)
  rw [List.append_assoc]
  exact htaken.reads hend

/-! ## Lists and members -/

/-- The loop over items meets a word for no number in its first item, or behind a comma. -/
theorem readItems_succ_eq_constant_iff (item : Text → Except Error (α × Text)) (close : CodePoint) (rounds : Nat) (s token : Text) :
    readItems item close (rounds + 1) s = .error (.constant token) ↔
      item s = .error (.constant token) ∨
        ∃ x behind others, item s = .ok (x, behind) ∧ CodePoint.ofChar ',' ≠ close ∧
          skipSpace behind = CodePoint.ofChar ',' :: others ∧
          readItems item close rounds (skipSpace others) = .error (.constant token) := by
  rw [readItems]
  constructor
  · intro h
    split at h
    · next hx =>
      cases h
      exact .inl hx
    · next x behind hx =>
      split at h
      · cases h
      · next c others hskip =>
        split at h
        · cases h
        · next hclose =>
          split at h
          · next hcomma =>
            subst hcomma
            split at h
            · next hothers =>
              cases h
              exact .inr ⟨x, behind, others, hx, hclose, hskip, hothers⟩
            · cases h
          · cases h
  · rintro (hx | ⟨x, behind, others, hx, hclose, hskip, hothers⟩)
    · rw [hx]
    · simp only [hx, hskip, if_neg hclose, if_true, hothers]

/-- The loop over items is decisive when the reader of items is, also where it may run more often. The induction is on the rounds,
each of which takes one item and comes to the same place behind it. -/
theorem Decisive.readItems (hdecisive : Decisive item) (hitem : ReadsOnly item (Taken item)) {rounds : Nat} {s token : Text}
    (h : readItems item close rounds s = .error (.constant token)) :
    s ≠ [] ∧ ∀ more, rounds ≤ more → ∀ rest, Json.readItems item close more (s ++ rest) = .error (.constant token) := by
  induction rounds generalizing s with
  | zero => cases h
  | succ rounds ih =>
    rcases (readItems_succ_eq_constant_iff ..).1 h with hx | ⟨x, behind, others, hx, hclose, hskip, hothers⟩
    · obtain ⟨hne, hagain⟩ := hdecisive hx
      refine ⟨hne, ?_⟩
      intro more hmore rest
      obtain ⟨more, rfl⟩ := Nat.exists_eq_add_of_le' (Nat.zero_lt_of_lt hmore)
      exact (readItems_succ_eq_constant_iff ..).2 (.inl (hagain rest))
    · obtain ⟨body, rfl, -⟩ := hitem hx
      refine ⟨List.append_ne_nil_of_right_ne_nil _ (ne_nil_of_skipSpace hskip), ?_⟩
      intro more hmore rest
      obtain ⟨more, rfl⟩ := Nat.exists_eq_add_of_le' (Nat.zero_lt_of_lt hmore)
      obtain ⟨hne, hagain⟩ := ih hothers
      obtain ⟨c, t, hspace⟩ := List.exists_cons_of_ne_nil hne
      refine (readItems_succ_eq_constant_iff ..).2 (.inr ⟨x, behind ++ rest, others ++ rest, ?_, hclose, ?_, ?_⟩)
      · exact hitem.append hx hskip (.inr (.inl rfl)) rest
      · exact skipSpace_append_of_eq hskip rest
      · rw [skipSpace_append_of_eq hspace, ← List.cons_append, ← hspace]
        exact hagain more (by omega) rest

/-- What stands between brackets is read decisively when its items are. -/
theorem Decisive.readSequence (hdecisive : Decisive item) (hitem : ReadsOnly item (Taken item)) (close : CodePoint) :
    Decisive (readSequence item close) := by
  intro s token h
  unfold Json.readSequence at h
  split at h
  · exact absurd rfl (hdecisive.readItems hitem h).1
  · next c behind hskip =>
    split at h
    · cases h
    · next hclose =>
      obtain ⟨-, hagain⟩ := hdecisive.readItems hitem h
      refine ⟨ne_nil_of_skipSpace hskip, ?_⟩
      intro rest
      have hrounds : behind.length + 1 ≤ (behind ++ rest).length + 1 := by simp
      simp only [Json.readSequence, skipSpace_append_of_eq hskip rest, if_neg hclose]
      exact hagain _ hrounds rest

end Items

/-- The reader of members meets a word for no number as the value behind a name and a colon. -/
theorem readMember_eq_constant_iff (value : Text → Except Error (Value × Text)) (s token : Text) :
    readMember value s = .error (.constant token) ↔
      ∃ t name behind others, s = CodePoint.ofChar '"' :: t ∧ readString s t = .ok (name, behind) ∧
        skipSpace behind = CodePoint.ofChar ':' :: others ∧ value (skipSpace others) = .error (.constant token) := by
  constructor
  · intro h
    cases s with
    | nil => cases h
    | cons c t =>
      rw [readMember] at h
      split at h
      · next hquote =>
        subst hquote
        split at h
        · next hname =>
          cases h
          exact absurd hname (readString_ne_constant _ _ _)
        · next name behind hname =>
          split at h
          · cases h
          · next d others hskip =>
            split at h
            · next hcolon =>
              subst hcolon
              split at h
              · next hv =>
                cases h
                exact ⟨t, name, behind, others, rfl, hname, hskip, hv⟩
              · cases h
            · cases h
      · cases h
  · rintro ⟨t, name, behind, others, rfl, hname, hskip, hv⟩
    rw [readMember, if_pos rfl, hname]
    simp only [hskip, if_true, hv]

theorem readString_append {opening t s behind : Text} (h : readString opening t = .ok (s, behind)) (opening' rest : Text) :
    readString opening' (t ++ rest) = .ok (s, behind ++ rest) := by
  obtain ⟨raw, rfl, hquotes⟩ := (readString_eq_ok_iff _ _ _ _).1 h
  refine (readString_eq_ok_iff _ _ _ _).2 ⟨raw, ?_, hquotes⟩
  rw [List.append_assoc, List.cons_append]

/-- A member is read decisively when its value is. -/
theorem Decisive.readMember {value : Text → Except Error (Value × Text)} (hdecisive : Decisive value) : Decisive (readMember value) := by
  intro s token h
  obtain ⟨t, name, behind, others, rfl, hname, hskip, hv⟩ := (readMember_eq_constant_iff ..).1 h
  obtain ⟨hne, hagain⟩ := hdecisive hv
  obtain ⟨c, u, hspace⟩ := List.exists_cons_of_ne_nil hne
  refine ⟨List.cons_ne_nil _ _, ?_⟩
  intro rest
  refine (readMember_eq_constant_iff ..).2
    ⟨t ++ rest, name, behind ++ rest, others ++ rest, rfl, readString_append hname _ rest, skipSpace_append_of_eq hskip rest, ?_⟩
  rw [skipSpace_append_of_eq hspace, ← List.cons_append, ← hspace]
  exact hagain rest

theorem readsOnly_readMember {value : Text → Except Error (Value × Text)} (hvalue : ReadsOnly value (Taken value)) :
    ReadsOnly (readMember value) (Taken (readMember value)) := by
  intro s m rest h
  obtain ⟨body, rfl, hbody⟩ := member_of_readMember hvalue h
  exact ⟨body, rfl, taken_of_member hbody⟩

/-! ## Values -/

/-- A scalar begins neither with a quote nor with an opening bracket. -/
theorem not_quote_not_opening_of_readScalar {c : CodePoint} {s rest : Text} {v : Value} (h : readScalar (c :: s) = .ok (v, rest)) :
    c ≠ '"' ∧ isOpening c = false := by
  have hnone : ∀ d : CodePoint, d = '"' ∨ d = '[' ∨ d = '\x7b' → readScalar (d :: s) = .error (.problem .expectingValue (d :: s)) := by
    rintro d (rfl | rfl | rfl) <;> rfl
  have hc : ¬ (c = '"' ∨ c = '[' ∨ c = '\x7b') := by
    intro hc
    rw [hnone c hc] at h
    cases h
  rw [not_or] at hc
  exact ⟨hc.1, decide_eq_false hc.2⟩

/-- A scalar that is read is taken again, at whatever nesting. -/
theorem taken_of_readScalar (depth : Nat) : ReadsOnly readScalar (Taken (readValue depth)) := by
  intro s v rest h
  obtain ⟨body, rfl, hdenotes⟩ := denotes_of_readScalar h
  obtain ⟨k, -, htaken⟩ := taken_of_denotes hdenotes
  obtain ⟨hstarts, hreads⟩ := htaken k (Nat.le_refl k)
  refine ⟨body, rfl, hstarts, ?_⟩
  intro rest hrest
  obtain ⟨c, t, rfl, -, -⟩ := hstarts
  obtain ⟨hquote, hopening⟩ := not_quote_not_opening_of_readScalar h
  have hscalar : ∀ depth, readValue depth (c :: t ++ rest) = readScalar (c :: t ++ rest) := fun depth =>
    readValue_eq_readScalar (t ++ rest) depth hquote hopening
  rw [hscalar depth, ← hscalar k]
  exact hreads hrest

/-- A value that is read is taken again where the text goes on, at the same nesting. -/
theorem taken_of_readValue (depth : Nat) : ReadsOnly (readValue depth) (Taken (readValue depth)) := by
  refine readsOnly_readValue (P := fun depth => Taken (readValue depth)) taken_of_readScalar ?string ?list ?object depth
  all_goals rw [← readValueBy_readScalar]
  case string =>
    intro depth raw s h
    obtain ⟨k, hk, htaken⟩ := withinNesting_string h
    -- Brackets in a string count for nothing, so every nesting will do.
    have hnone : k = 0 := hk.nesting_eq.symm.trans h.balanced.nesting_eq
    exact htaken depth (by omega)
  case list =>
    intro inner s items h
    refine ⟨⟨_, _, rfl, by decide, by decide⟩, ?_⟩
    intro rest _
    simp only [List.append_assoc, List.cons_append, List.nil_append]
    exact readValueBy_list h
  case object =>
    intro inner s ms h
    refine ⟨⟨_, _, rfl, by decide, by decide⟩, ?_⟩
    intro rest _
    simp only [List.append_assoc, List.cons_append, List.nil_append]
    exact readValueBy_object h ((membersMean_iff _ _).2 rfl)

/-- The reader of values is decisive, at whatever nesting that is allowed. The induction is on the nesting. -/
theorem decisive_readValue (depth : Nat) : Decisive (readValue depth) := by
  induction depth using Nat.strongRecOn with
  | ind depth ih =>
    intro s token h
    -- What stands between brackets may be taken up again where an opening bracket is passed.
    have hbracket : ∀ {α β : Type} {reader : Text → Except Error (α × Text)} {f : α × Text → β × Text} {t : Text},
        Decisive reader → (reader t).map f = .error (.constant token) →
          ∀ rest, (reader (t ++ rest)).map f = .error (.constant token) := by
      intro α β reader f t hreader hmap rest
      exact (map_eq_error_iff _ _ _).2 ((hreader ((map_eq_error_iff _ _ _).1 hmap)).2 rest)
    cases s with
    | nil =>
      rw [readValue.eq_def] at h
      cases h
    | cons c t =>
      refine ⟨List.cons_ne_nil _ _, ?_⟩
      intro rest
      rw [List.cons_append]
      rw [readValue.eq_def] at h ⊢
      dsimp only at h ⊢
      split at h
      · exact absurd ((map_eq_error_iff _ _ _).1 h) (readString_ne_constant _ _ _)
      · next hquote =>
        rw [if_neg hquote]
        split at h
        · next hlist =>
          rw [if_pos hlist]
          cases depth with
          | zero => cases h
          | succ inner =>
            have hinner : Decisive (readValue inner) := ih inner (Nat.lt_succ_self inner)
            exact hbracket (hinner.readSequence (taken_of_readValue inner) ']') h rest
        · next hlist =>
          rw [if_neg hlist]
          split at h
          · next hobject =>
            rw [if_pos hobject]
            cases depth with
            | zero => cases h
            | succ inner =>
              have hinner : Decisive (readValue inner) := ih inner (Nat.lt_succ_self inner)
              have hmember : Decisive (readMember (readValue inner)) := hinner.readMember
              exact hbracket (hmember.readSequence (readsOnly_readMember (taken_of_readValue inner)) '\x7d') h rest
          · next hobject =>
            rw [if_neg hobject]
            exact (decisive_readScalar h).2 rest

/-- A text that is refused for a word for no number is refused for it whatever it goes on with. -/
theorem read_append_of_constant {text token : Text} (h : read text = .error (.constant token)) (rest : Text) :
    read (text ++ rest) = .error (.constant token) := by
  rw [read] at h
  split at h
  · cases h
  · next hmark =>
    split at h
    · next hvalue =>
      cases h
      obtain ⟨hne, hagain⟩ := decisive_readValue _ hvalue
      obtain ⟨c, t, hskip⟩ := List.exists_cons_of_ne_nil hne
      have hhead : (text ++ rest).head? = text.head? := List.head?_append_of_ne_nil _ (ne_nil_of_skipSpace hskip)
      rw [read, hhead, if_neg hmark, skipSpace_append_of_eq hskip, ← List.cons_append, ← hskip, hagain rest]
    · split at h <;> cases h

end Json

namespace Payload

/-- The words for numbers that are none. -/
def forbiddenConstants : List Text := ["NaN", "Infinity", "-Infinity"]

/-- What a client is told of a text with a word for no number. -/
def constantReason (token : Text) : Text := Text.concat [token, " is not valid JSON"]

/-- The letters with which the reasons begin that quote no such word. -/
def otherBeginnings : List Text := ["Une", "Exp", "Unt", "Inv", "Ext", "Exc", "num", "nes"]

/-- The reason of an error that is not about such a word begins with other letters. -/
theorem take_reason_mem (text : Text) {e : Json.Error} (h : ∀ token, e ≠ .constant token) :
    (e.reason text).take 3 ∈ otherBeginnings := by
  have hkind : ∀ kind rest, (Json.Problem.at kind text rest).take 3 = kind.text.take 3 := by
    intro kind rest
    cases kind <;> rfl
  cases e with
  | problem kind rest =>
    rw [Json.Error.reason, hkind]
    cases kind <;> decide
  | tooManyDigits count => exact List.mem_of_elem_eq_true rfl
  | constant token => exact absurd rfl (h token)
  | outOfRange token => exact List.mem_of_elem_eq_true rfl
  | tooDeep => exact List.mem_of_elem_eq_true rfl

/-- Only the error about the word itself has the reason of a word for no number. -/
theorem eq_constant_of_reason {text token : Text} {e : Json.Error} (htoken : token ∈ forbiddenConstants)
    (h : e.reason text = constantReason token) : e = .constant token := by
  have hforbidden : ∀ token ∈ forbiddenConstants, (constantReason token).take 3 ∉ otherBeginnings := by decide
  by_cases hother : ∀ other, e ≠ .constant other
  · have hmem := take_reason_mem text hother
    rw [h] at hmem
    exact absurd hmem (hforbidden token htoken)
  · obtain ⟨other, rfl⟩ := not_forall_not.1 hother
    have happend : other ++ (" is not valid JSON" : Text) = token ++ (" is not valid JSON" : Text) := by
      simpa [Json.Error.reason, constantReason, Text.concat] using h
    rw [List.append_cancel_right happend]

/-- A payload is refused for a word for no number exactly when the reader meets the word in its text. -/
theorem read_eq_constant_iff {text token : Text} (htoken : token ∈ forbiddenConstants) :
    Payload.read (some text) = .error (.rejected (.malformedPayload (constantReason token))) ↔
      text.isBlank = false ∧ Json.read text = .error (.constant token) := by
  have hreasons : constantReason token ≠ "empty body" ∧ constantReason token ≠ "top-level value must be a JSON object" := by
    revert token
    decide
  simp only [Payload.read]
  constructor
  · intro h
    split at h
    · exact absurd (Rejection.malformedPayload.inj (Fault.rejected.inj (Except.error.inj h))).symm hreasons.1
    · next hblank =>
      refine ⟨Bool.eq_false_iff.2 hblank, ?_⟩
      split at h
      · cases h
      · exact absurd (Rejection.malformedPayload.inj (Fault.rejected.inj (Except.error.inj h))).symm hreasons.2
      · next e hread =>
        rw [hread, eq_constant_of_reason htoken (Rejection.malformedPayload.inj (Fault.rejected.inj (Except.error.inj h)))]
  · rintro ⟨hblank, hread⟩
    simp only [hblank, Bool.false_eq_true, if_false, hread]
    rfl

/-- A word for a number that is none is final: a text that is refused for it is refused for it, by the same words, whatever the text
goes on with. -/
theorem read_append_of_refused (text token : Text) (htoken : token ∈ forbiddenConstants)
    (h : Payload.read (some text) = .error (.rejected (.malformedPayload (constantReason token)))) (rest : Text) :
    Payload.read (some (text ++ rest)) = .error (.rejected (.malformedPayload (constantReason token))) := by
  obtain ⟨hblank, hread⟩ := (read_eq_constant_iff htoken).1 h
  refine (read_eq_constant_iff htoken).2 ⟨?_, Json.read_append_of_constant hread rest⟩
  rw [Text.isBlank, List.all_append, show text.all CodePoint.isBlank = false from hblank, Bool.false_and]

/-- A text that is broken off behind a negative infinity, three brackets deep, is refused for it, and so is the text with a rest that
closes one of the brackets wrongly and holds another such word and too great a number. -/
theorem read_append_brokenOff :
    ("-Infinity" : Text) ∈ forbiddenConstants ∧
      Payload.read (some "\x7b\"rates\": [-25, \x7b\"\\u0022\": -Infinity") =
        .error (.rejected (.malformedPayload (constantReason "-Infinity"))) ∧
      Payload.read (some (("\x7b\"rates\": [-25, \x7b\"\\u0022\": -Infinity" : Text) ++ ("5], NaN 1e999" : Text))) =
        .error (.rejected (.malformedPayload (constantReason "-Infinity"))) := by
  have htoken : ("-Infinity" : Text) ∈ forbiddenConstants := by decide
  have hread : Payload.read (some "\x7b\"rates\": [-25, \x7b\"\\u0022\": -Infinity") =
      .error (.rejected (.malformedPayload (constantReason "-Infinity"))) := by cbv
  exact ⟨htoken, hread, read_append_of_refused _ _ htoken hread _⟩

end Payload

end Admission
