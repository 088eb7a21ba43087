import Admission.Proofs.Json.Nesting
import Admission.Proofs.Json.Objects
import Admission.Proofs.TextParts
import Admission.Proofs.Traversal

/-!
# A text is read as the value that it denotes

The reader against the grammar, in both directions. What is read is a text of JSON, and what is left is the rest of the text
(`denotes_of_readValue`). Conversely a value is read off the front of a text wherever its nesting is allowed and the text goes on
with an end (`taken_of_denotes`). Lists and objects share one loop, so that the loop is settled for any reader of items. For whole
texts see `isDocument_of_read` and `read_of_isDocument`.
-/

namespace Admission

namespace Json

/-! ## White space -/

/-- What is skipped is white space, and nothing else is lost. -/
theorem exists_isSpace_of_skipSpace (s : Text) : ∃ before, IsSpace before ∧ s = before ++ skipSpace s :=
  ⟨s.takeWhile isSpace, List.all_eq_true.1 List.all_takeWhile, List.takeWhile_append_dropWhile.symm⟩

/-- White space in front of a text is skipped up to where the text begins. -/
theorem skipSpace_append {before s : Text} (h : IsSpace before) (hs : Begins (fun c => isSpace c = false) s) :
    skipSpace (before ++ s) = s :=
  Text.dropWhile_append_of_head? h hs

theorem skipSpace_of_isSpace {s : Text} (h : IsSpace s) : skipSpace s = [] := by
  have hskip := skipSpace_append h (begins_nil _)
  rw [List.append_nil] at hskip
  exact hskip

theorem IsSpace.begins_append {after s : Text} (h : IsSpace after) (hs : Begins IsEnd s) : Begins IsEnd (after ++ s) := by
  refine Begins.append ?_ hs
  intro c hc
  exact .inl (h c (List.mem_of_mem_head? hc))

theorem isSpace_eq_false_of_isClosing {c : CodePoint} (h : isClosing c = true) : isSpace c = false := by
  simp only [isClosing, decide_eq_true_eq] at h
  rcases h with rfl | rfl <;> decide

/-! ## The loop over items -/

section Items

variable {α : Type} {item : Text → Except Error (α × Text)} {close : CodePoint}

/-- What a reader of items takes is an item of a kind, and what it leaves is the rest. -/
def ReadsOnly (item : Text → Except Error (α × Text)) (Item : Text → α → Prop) : Prop :=
  ∀ {s : Text} {x : α} {rest : Text}, item s = .ok (x, rest) → ∃ body, s = body ++ rest ∧ Item body x

/-- What one round of the loop does: it takes an item, and ends at the closing bracket or goes on behind a comma. -/
theorem readItems_succ_eq_ok_iff (item : Text → Except Error (α × Text)) (close : CodePoint) (rounds : Nat) (s rest : Text)
    (xs : List α) :
    readItems item close (rounds + 1) s = .ok (xs, rest) ↔
      ∃ x behind, item s = .ok (x, behind) ∧
        (skipSpace behind = close :: rest ∧ xs = [x] ∨
          ∃ others ys, CodePoint.ofChar ',' ≠ close ∧ skipSpace behind = CodePoint.ofChar ',' :: others ∧
            readItems item close rounds (skipSpace others) = .ok (ys, rest) ∧ xs = x :: ys) := by
  rw [readItems]
  constructor
  · intro h
    split at h
    · cases h
    · next x behind hx =>
      refine ⟨x, behind, hx, ?_⟩
      split at h
      · cases h
      · next c others hskip =>
        split at h
        · next hclose =>
          cases h
          exact .inl ⟨by rw [hskip, hclose], rfl⟩
        · next hclose =>
          split at h
          · next hcomma =>
            subst hcomma
            split at h
            · cases h
            · next ys behind hothers =>
              cases h
              exact .inr ⟨others, ys, hclose, hskip, hothers, rfl⟩
          · cases h
  · rintro ⟨x, behind, hx, ⟨hskip, rfl⟩ | ⟨others, ys, hclose, hskip, hothers, rfl⟩⟩
    · simp only [hx, hskip, if_true]
    · simp only [hx, hskip, if_neg hclose, if_true, hothers]

/-- What the loop takes is a sequence, and the closing bracket stands behind it. -/
theorem sequence_of_readItems {Item : Text → α → Prop} (hitem : ReadsOnly item Item) {rounds : Nat} {s rest : Text} {xs : List α}
    (h : readItems item close rounds s = .ok (xs, rest)) : ∃ body, s = body ++ close :: rest ∧ Sequence Item body xs := by
  induction rounds generalizing s xs with
  | zero => cases h
  | succ rounds ih =>
    obtain ⟨x, behind, hx, hround⟩ := (readItems_succ_eq_ok_iff ..).1 h
    obtain ⟨body, rfl, hbody⟩ := hitem hx
    obtain ⟨after, hafter, hbehind⟩ := exists_isSpace_of_skipSpace behind
    rcases hround with ⟨hskip, rfl⟩ | ⟨others, ys, -, hskip, hothers, rfl⟩
    · refine ⟨body ++ after, ?_, .one hbody hafter⟩
      rw [hbehind, hskip, List.append_assoc]
    · obtain ⟨before, hbefore, hspace⟩ := exists_isSpace_of_skipSpace others
      obtain ⟨bodies, hbodies, hsequence⟩ := ih hothers
      refine ⟨body ++ (after ++ (CodePoint.ofChar ',' :: (before ++ bodies))), ?_, .cons hbody hafter hbefore hsequence⟩
      rw [hbehind, hskip, hspace, hbodies]
      simp only [List.append_assoc, List.cons_append]

/-- What is read between an opening and a closing bracket is enclosed by them. -/
theorem enclosed_of_readSequence {Item : Text → α → Prop} (hitem : ReadsOnly item Item) {s rest : Text} {xs : List α}
    (h : readSequence item close s = .ok (xs, rest)) : ∃ body, s = body ++ close :: rest ∧ Enclosed Item body xs := by
  obtain ⟨before, hbefore, hs⟩ := exists_isSpace_of_skipSpace s
  -- A sequence that is read behind the white space stands behind it in the text.
  have hsome : ∀ {rounds t}, t = skipSpace s → readItems item close rounds t = .ok (xs, rest) →
      ∃ body, s = body ++ close :: rest ∧ Enclosed Item body xs := by
    intro rounds t ht hread
    obtain ⟨body, hbody, hsequence⟩ := sequence_of_readItems hitem hread
    refine ⟨before ++ body, ?_, .some hbefore hsequence⟩
    rw [hs, ← ht, hbody, List.append_assoc]
  rw [readSequence] at h
  split at h
  · next hnil => exact hsome hnil.symm h
  · next c behind hcons =>
    split at h
    · next hclose =>
      cases h
      refine ⟨before, ?_, .none hbefore⟩
      rw [hs, hcons, hclose]
    · exact hsome hcons.symm h

/-- A text begins with a code point that is neither white space nor a closing bracket. -/
def Starts (s : Text) : Prop := ∃ c t, s = c :: t ∧ isSpace c = false ∧ isClosing c = false

theorem Starts.append {s : Text} (h : Starts s) (t : Text) : Starts (s ++ t) := by
  obtain ⟨c, rest, rfl, hspace, hclosing⟩ := h
  exact ⟨c, rest ++ t, rfl, hspace, hclosing⟩

theorem Starts.begins {s : Text} (h : Starts s) : Begins (fun c => isSpace c = false) s := by
  obtain ⟨c, rest, rfl, hspace, -⟩ := h
  exact (begins_cons _ _ _).2 hspace

/-- A text starts, and a reader takes it whole off the front of every text that goes on with an end. -/
structure Taken (item : Text → Except Error (α × Text)) (s : Text) (x : α) : Prop where
  starts : Starts s
  reads : ∀ {rest : Text}, Begins IsEnd rest → item (s ++ rest) = .ok (x, rest)

variable {s rest : Text} {xs : List α}

theorem starts_of_sequence (h : Sequence (Taken item) s xs) : Starts s := by
  cases h with
  | one h _ => exact h.starts.append _
  | cons h _ _ _ => exact h.starts.append _

/-- A sequence has no more items than code points. -/
theorem length_le_of_sequence (h : Sequence (Taken item) s xs) : xs.length ≤ s.length := by
  induction h with
  | one h _ =>
    obtain ⟨c, t, rfl, -, -⟩ := h.starts
    simp
  | cons _ _ _ _ ih =>
    simp only [List.length_cons, List.length_append]
    omega

/-- The loop takes a sequence whole when it may run as often as there are items. -/
theorem readItems_of_sequence (hclose : isClosing close = true) (h : Sequence (Taken item) s xs) {rounds : Nat}
    (hrounds : xs.length ≤ rounds) : readItems item close rounds (s ++ close :: rest) = .ok (xs, rest) := by
  have hspace : isSpace close = false := isSpace_eq_false_of_isClosing hclose
  have hcomma : CodePoint.ofChar ',' ≠ close := by
    rintro rfl
    exact absurd hclose (by decide)
  induction h generalizing rounds with
  | @one s after x h hafter =>
    obtain ⟨rounds, rfl⟩ := Nat.exists_eq_succ_of_ne_zero (Nat.ne_zero_of_lt hrounds)
    have hend : Begins IsEnd (close :: rest) := (begins_cons _ _ _).2 (.inr (.inr hclose))
    have hskip : skipSpace (after ++ close :: rest) = close :: rest := skipSpace_append hafter ((begins_cons _ _ _).2 hspace)
    rw [List.append_assoc, readItems_succ_eq_ok_iff]
    exact ⟨x, _, h.reads (hafter.begins_append hend), .inl ⟨hskip, rfl⟩⟩
  | @cons s after before behind x xs h hafter hbefore hrest ih =>
    obtain ⟨rounds, rfl⟩ := Nat.exists_eq_succ_of_ne_zero (Nat.ne_zero_of_lt hrounds)
    have hend : Begins IsEnd (CodePoint.ofChar ',' :: (before ++ (behind ++ close :: rest))) :=
      (begins_cons _ _ _).2 (.inr (.inl rfl))
    have hskip : skipSpace (after ++ CodePoint.ofChar ',' :: (before ++ (behind ++ close :: rest))) =
        CodePoint.ofChar ',' :: (before ++ (behind ++ close :: rest)) :=
      skipSpace_append hafter ((begins_cons _ _ _).2 (by decide))
    have hskip' : skipSpace (before ++ (behind ++ close :: rest)) = behind ++ close :: rest :=
      skipSpace_append hbefore ((starts_of_sequence hrest).append _).begins
    simp only [List.append_assoc, List.cons_append]
    rw [readItems_succ_eq_ok_iff]
    refine ⟨x, _, h.reads (hafter.begins_append hend), .inr ⟨_, xs, hcomma, hskip, ?_, rfl⟩⟩
    rw [hskip']
    exact ih (Nat.le_of_succ_le_succ hrounds)

/-- What is enclosed by brackets is read whole behind the opening one. -/
theorem readSequence_of_enclosed (hclose : isClosing close = true) (h : Enclosed (Taken item) s xs) :
    readSequence item close (s ++ close :: rest) = .ok (xs, rest) := by
  have hspace : isSpace close = false := isSpace_eq_false_of_isClosing hclose
  cases h with
  | none h =>
    rw [readSequence, skipSpace_append h ((begins_cons _ _ _).2 hspace)]
    exact if_pos rfl
  | @some before s xs hbefore h =>
    obtain ⟨c, t, rfl, hc, hclosing⟩ := starts_of_sequence h
    have hne : c ≠ close := by
      rintro rfl
      rw [hclose] at hclosing
      cases hclosing
    have hskip : skipSpace (before ++ (c :: t ++ close :: rest)) = c :: (t ++ close :: rest) :=
      skipSpace_append hbefore ((begins_cons _ _ _).2 hc)
    have hrounds : xs.length ≤ (t ++ close :: rest).length + 1 := by
      have hlength := length_le_of_sequence h
      simp only [List.length_cons, List.length_append] at hlength ⊢
      omega
    rw [List.append_assoc, readSequence, hskip]
    dsimp only
    rw [if_neg hne]
    exact readItems_of_sequence hclose h hrounds

end Items

/-! ## Members -/

/-- What the reader of members takes: a string, a colon and a value. -/
theorem readMember_eq_ok_iff (value : Text → Except Error (Value × Text)) (s rest name : Text) (v : Value) :
    readMember value s = .ok ((name, v), rest) ↔
      ∃ t behind others, s = CodePoint.ofChar '"' :: t ∧ readString s t = .ok (name, behind) ∧
        skipSpace behind = CodePoint.ofChar ':' :: others ∧ value (skipSpace others) = .ok (v, rest) := by
  constructor
  · intro h
    cases s with
    | nil => cases h
    | cons c t =>
      rw [readMember] at h
      split at h
      · next hquote =>
        subst hquote
        split at h
        · cases h
        · next name behind hname =>
          split at h
          · cases h
          · next d others hskip =>
            split at h
            · next hcolon =>
              subst hcolon
              split at h
              · cases h
              · next w behind hv =>
                cases h
                exact ⟨t, _, others, rfl, hname, hskip, hv⟩
            · cases h
      · cases h
  · rintro ⟨t, behind, others, rfl, hname, hskip, hv⟩
    rw [readMember, if_pos rfl, hname]
    simp only [hskip, if_true, hv]

/-- A member that is read is a name in quotes, a colon and a value. -/
theorem member_of_readMember {value : Text → Except Error (Value × Text)} {Item : Text → Value → Prop}
    (hvalue : ReadsOnly value Item) : ReadsOnly (readMember value) (Member Item) := by
  rintro s ⟨name, v⟩ rest h
  obtain ⟨t, behind, others, rfl, hname, hskip, hv⟩ := (readMember_eq_ok_iff ..).1 h
  obtain ⟨raw, rfl, hquotes⟩ := (readString_eq_ok_iff _ _ _ _).1 hname
  obtain ⟨before, hbefore, hbehind⟩ := exists_isSpace_of_skipSpace behind
  obtain ⟨after, hafter, hothers⟩ := exists_isSpace_of_skipSpace others
  obtain ⟨body, hbody, hitem⟩ := hvalue hv
  refine ⟨_, ?_, .mk hquotes hbefore hafter hitem⟩
  rw [hbehind, hskip, hothers, hbody]
  simp only [List.append_assoc, List.cons_append]

/-- A member is taken whole where its value is. -/
theorem taken_of_member {value : Text → Except Error (Value × Text)} {s : Text} {m : Text × Value}
    (h : Member (Taken value) s m) : Taken (readMember value) s m := by
  cases h with
  | @mk raw name before after s v hname hbefore hafter h =>
    refine ⟨⟨_, _, rfl, by decide, by decide⟩, ?_⟩
    intro rest hrest
    have hskip : skipSpace (before ++ CodePoint.ofChar ':' :: (after ++ (s ++ rest))) =
        CodePoint.ofChar ':' :: (after ++ (s ++ rest)) :=
      skipSpace_append hbefore ((begins_cons _ _ _).2 (by decide))
    have hskip' : skipSpace (after ++ (s ++ rest)) = s ++ rest := skipSpace_append hafter (h.starts.append _).begins
    simp only [List.append_assoc, List.cons_append]
    rw [readMember_eq_ok_iff]
    refine ⟨_, _, _, rfl, (readString_eq_ok_iff _ _ _ _).2 ⟨raw, rfl, hname⟩, hskip, ?_⟩
    rw [hskip', h.reads hrest]

/-! ## Values -/

/-- What is read as a value has a property that scalars and texts have, and that carries over from what stands between brackets to the
list and to the object, where one nesting more is allowed. The induction is on the nesting. -/
theorem readsOnly_readValue {P : Nat → Text → Value → Prop} (scalar : ∀ depth, ReadsOnly readScalar (P depth))
    (string : ∀ (depth : Nat) {raw s : Text}, Quotes raw s →
      P depth (CodePoint.ofChar '"' :: (raw ++ [CodePoint.ofChar '"'])) (.str s))
    (list : ∀ {inner : Nat} {s : Text} {items : List Value}, Enclosed (P inner) s items →
      P (inner + 1) (CodePoint.ofChar '[' :: (s ++ [CodePoint.ofChar ']'])) (.list items))
    (object : ∀ {inner : Nat} {s : Text} {ms : List (Text × Value)}, Enclosed (Member (P inner)) s ms →
      P (inner + 1) (CodePoint.ofChar '\x7b' :: (s ++ [CodePoint.ofChar '\x7d'])) (.dict (Members.ofList ms)))
    (depth : Nat) : ReadsOnly (readValue depth) (P depth) := by
  induction depth using Nat.strongRecOn with
  | ind depth ih =>
    intro s v rest h
    rw [readValue.eq_def] at h
    split at h
    · cases h
    · next depth _ c s =>
      split at h
      · next hquote =>
        obtain ⟨⟨text, behind⟩, hread, heq⟩ := (map_eq_ok_iff _ _ _).1 h
        cases heq
        obtain ⟨raw, rfl, hquotes⟩ := (readString_eq_ok_iff _ _ _ _).1 hread
        refine ⟨_, ?_, string _ hquotes⟩
        rw [hquote]
        simp only [List.append_assoc, List.cons_append, List.nil_append]
      · split at h
        · next hbracket =>
          split at h
          · cases h
          · next inner =>
            obtain ⟨⟨items, behind⟩, hread, heq⟩ := (map_eq_ok_iff _ _ _).1 h
            cases heq
            obtain ⟨body, rfl, hbody⟩ := enclosed_of_readSequence (ih inner (Nat.lt_succ_self inner)) hread
            refine ⟨_, ?_, list hbody⟩
            rw [hbracket]
            simp only [List.append_assoc, List.cons_append, List.nil_append]
        · split at h
          · next hbrace =>
            split at h
            · cases h
            · next inner =>
              obtain ⟨⟨ms, behind⟩, hread, heq⟩ := (map_eq_ok_iff _ _ _).1 h
              cases heq
              obtain ⟨body, rfl, hbody⟩ :=
                enclosed_of_readSequence (member_of_readMember (ih inner (Nat.lt_succ_self inner))) hread
              refine ⟨_, ?_, object hbody⟩
              rw [hbrace]
              simp only [List.append_assoc, List.cons_append, List.nil_append]
          · exact scalar _ h

/-- What is read as a value denotes it, at whatever nesting that is allowed. -/
theorem denotes_of_readValue (depth : Nat) : ReadsOnly (readValue depth) Denotes :=
  readsOnly_readValue (P := fun _ => Denotes) (fun _ => denotes_of_readScalar) (fun _ => .string) .list
    (fun h => .object h ((membersMean_iff _ _).2 rfl)) depth

/-! ## Readers of scalars

That a text of JSON is taken whole does not depend on how scalars are read, as long as those that the text holds are read. -/

/-- The value in front of a text, nested at most so deep, where `scalar` reads what is neither a string nor nested. -/
def readValueBy (scalar : Text → Except Error (Value × Text)) : Nat → Text → Except Error (Value × Text)
  | _, [] => .error (.problem .expectingValue [])
  | depth, c :: rest =>
    if c = '"' then (readString (c :: rest) rest).map fun r => (.str r.1, r.2)
    else if c = '[' then
      match depth with
      | 0 => .error .tooDeep
      | inner + 1 => (readSequence (readValueBy scalar inner) ']' rest).map fun r => (.list r.1, r.2)
    else if c = '\x7b' then
      match depth with
      | 0 => .error .tooDeep
      | inner + 1 =>
        (readSequence (readMember (readValueBy scalar inner)) '\x7d' rest).map fun r => (.dict (Members.ofList r.1), r.2)
    else scalar (c :: rest)

/-- The reader of values is the one that reads scalars by the reader of scalars. -/
theorem readValueBy_readScalar : readValueBy readScalar = readValue := by
  funext depth
  induction depth with
  | zero =>
    funext s
    cases s with
    | nil => rfl
    | cons c s => rw [readValueBy.eq_def, readValue.eq_def]
  | succ inner ih =>
    funext s
    cases s with
    | nil => rfl
    | cons c s =>
      rw [readValueBy.eq_def, readValue.eq_def]
      dsimp only
      rw [ih]

section ScalarReaders

variable {scalar : Text → Except Error (Value × Text)}

/-- A value whose text begins neither with a quote nor with a bracket is read as a scalar. -/
theorem readValueBy_eq_scalar {c : CodePoint} (s : Text) (depth : Nat) (hquote : c ≠ '"') (hopening : isOpening c = false) :
    readValueBy scalar depth (c :: s) = scalar (c :: s) := by
  simp only [isOpening, decide_eq_false_iff_not, not_or] at hopening
  rw [readValueBy.eq_def]
  simp only [if_neg hquote, if_neg hopening.1, if_neg hopening.2]

/-- A neutral text that is read whole as a scalar is taken as a value, at whatever nesting that is allowed. -/
theorem withinNesting_of_scalar {c : CodePoint} {s t : Text} {v : Value} (hs : s = c :: t) (hc : isSpace c = false)
    (hneutral : ∀ d ∈ s, IsNeutral d) (hread : ∀ {rest : Text}, Begins IsEnd rest → scalar (s ++ rest) = .ok (v, rest)) :
    WithinNesting (fun depth => Taken (readValueBy scalar depth)) s v := by
  subst hs
  obtain ⟨hquote, hopening, hclosing⟩ := hneutral c (List.mem_cons_self ..)
  refine ⟨0, balanced_of_isNeutral hneutral, fun depth _ => ⟨⟨c, t, rfl, hc, hclosing⟩, ?_⟩⟩
  intro rest hrest
  rw [← hread hrest]
  exact readValueBy_eq_scalar (t ++ rest) depth hquote hopening

theorem withinNesting_number {n : Numeral} {v : Value} (hwritten : n.IsWritten)
    (hread : ∀ {rest : Text}, Begins IsEnd rest → scalar (n.token ++ rest) = .ok (v, rest)) :
    WithinNesting (fun depth => Taken (readValueBy scalar depth)) n.token v := by
  obtain ⟨c, t, hc, htoken⟩ := hwritten.token_begins
  cases hnegative : n.negative with
  | true =>
    rw [hnegative, if_pos rfl] at htoken
    exact withinNesting_of_scalar htoken (by decide) hwritten.isNeutral hread
  | false =>
    rw [hnegative, if_neg Bool.false_ne_true] at htoken
    have hspace : isSpace c = false := by
      rw [isSpace, decide_eq_false_iff_not]
      rintro (rfl | rfl | rfl | rfl) <;> exact absurd hc (by decide)
    exact withinNesting_of_scalar htoken hspace hwritten.isNeutral hread

theorem withinNesting_string {raw s : Text} (h : Quotes raw s) :
    WithinNesting (fun depth => Taken (readValueBy scalar depth)) (CodePoint.ofChar '"' :: (raw ++ [CodePoint.ofChar '"']))
      (.str s) := by
  refine ⟨0, h.balanced, fun depth _ => ⟨⟨_, _, rfl, by decide, by decide⟩, ?_⟩⟩
  intro rest _
  have hread : readString (CodePoint.ofChar '"' :: (raw ++ CodePoint.ofChar '"' :: rest)) (raw ++ CodePoint.ofChar '"' :: rest) =
      .ok (s, rest) :=
    (readString_eq_ok_iff _ _ _ _).2 ⟨raw, rfl, h⟩
  simp only [List.append_assoc, List.cons_append, List.nil_append]
  rw [readValueBy.eq_def]
  simp only [if_true, hread]
  rfl

theorem not_space_not_closing_of_isOpening {c : CodePoint} (h : isOpening c = true) : isSpace c = false ∧ isClosing c = false := by
  simp only [isOpening, decide_eq_true_eq] at h
  rcases h with rfl | rfl <;> decide

/-- What stands between brackets is taken with them, where one nesting less is allowed inside and the reader of values goes on from
the opening bracket to the closing one. -/
theorem withinNesting_bracketed {α : Type} {Q : Nat → Text → α → Prop} {c d : CodePoint} {s : Text} {xs : List α} {v : Value}
    (hc : isOpening c = true) (hd : isClosing d = true) (h : Enclosed (WithinNesting Q) s xs)
    (hread : ∀ {inner : Nat} {rest : Text}, Enclosed (Q inner) s xs →
      readValueBy scalar (inner + 1) (c :: (s ++ d :: rest)) = .ok (v, rest)) :
    WithinNesting (fun depth => Taken (readValueBy scalar depth)) (c :: (s ++ [d])) v := by
  obtain ⟨k, hk, hinside⟩ := h.withinNesting
  obtain ⟨hspace, hclosing⟩ := not_space_not_closing_of_isOpening hc
  refine ⟨k + 1, hk.bracketed hc hd, ?_⟩
  intro depth hdepth
  obtain ⟨inner, rfl⟩ : ∃ n, depth = n + 1 := ⟨depth - 1, by omega⟩
  refine ⟨⟨c, _, rfl, hspace, hclosing⟩, ?_⟩
  intro rest _
  simp only [List.append_assoc, List.cons_append, List.nil_append]
  exact hread (hinside inner (by omega))

/-- A list is read whole where its items are taken with one nesting less. -/
theorem readValueBy_list {inner : Nat} {s rest : Text} {items : List Value}
    (h : Enclosed (Taken (readValueBy scalar inner)) s items) :
    readValueBy scalar (inner + 1) (CodePoint.ofChar '[' :: (s ++ CodePoint.ofChar ']' :: rest)) = .ok (.list items, rest) := by
  have hquote : CodePoint.ofChar '[' ≠ CodePoint.ofChar '"' := by decide
  have hread : readSequence (readValueBy scalar inner) ']' (s ++ CodePoint.ofChar ']' :: rest) = .ok (items, rest) :=
    readSequence_of_enclosed (by decide) h
  rw [readValueBy.eq_def]
  simp only [if_neg hquote, if_true, hread]
  rfl

/-- An object is read whole where the values of its members are taken with one nesting less. -/
theorem readValueBy_object {inner : Nat} {s rest : Text} {ms : List (Text × Value)} {object : Members}
    (h : Enclosed (Member (Taken (readValueBy scalar inner))) s ms) (hmean : MembersMean ms object) :
    readValueBy scalar (inner + 1) (CodePoint.ofChar '\x7b' :: (s ++ CodePoint.ofChar '\x7d' :: rest)) =
      .ok (.dict object, rest) := by
  have hquote : CodePoint.ofChar '\x7b' ≠ CodePoint.ofChar '"' := by decide
  have hbracket : CodePoint.ofChar '\x7b' ≠ CodePoint.ofChar '[' := by decide
  have hread : readSequence (readMember (readValueBy scalar inner)) '\x7d' (s ++ CodePoint.ofChar '\x7d' :: rest) = .ok (ms, rest) :=
    readSequence_of_enclosed (by decide) (h.mono fun _ _ hmember => taken_of_member hmember)
  rw [readValueBy.eq_def, (membersMean_iff _ _).1 hmean]
  simp only [if_neg hquote, if_neg hbracket, if_true, hread]
  rfl

theorem withinNesting_list {s : Text} {items : List Value}
    (h : Enclosed (WithinNesting fun depth => Taken (readValueBy scalar depth)) s items) :
    WithinNesting (fun depth => Taken (readValueBy scalar depth)) (CodePoint.ofChar '[' :: (s ++ [CodePoint.ofChar ']']))
      (.list items) :=
  withinNesting_bracketed (by decide) (by decide) h readValueBy_list

theorem withinNesting_object {s : Text} {ms : List (Text × Value)} {object : Members}
    (h : Enclosed (Member (WithinNesting fun depth => Taken (readValueBy scalar depth))) s ms) (hmean : MembersMean ms object) :
    WithinNesting (fun depth => Taken (readValueBy scalar depth)) (CodePoint.ofChar '\x7b' :: (s ++ [CodePoint.ofChar '\x7d']))
      (.dict object) := by
  have hmembers := h.mono fun _ _ hmember => hmember.withinNesting
  exact withinNesting_bracketed (by decide) (by decide) hmembers fun hinside => readValueBy_object hinside hmean

/-- A text of JSON is taken as the value that it denotes wherever its nesting is allowed, by every reader that reads the scalars of
the text as the values that they denote. -/
theorem takenBy_of_denotes (hscalar : ∀ {s : Text} {r : Value × Text}, readScalar s = .ok r → scalar s = .ok r) {s : Text} {v : Value}
    (h : Denotes s v) : WithinNesting (fun depth => Taken (readValueBy scalar depth)) s v := by
  refine Denotes.induct (P := WithinNesting fun depth => Taken (readValueBy scalar depth)) ?null ?bool ?number
    withinNesting_string withinNesting_list withinNesting_object h
  case null =>
    refine withinNesting_of_scalar (c := 'n') rfl (by decide) ?_ (fun _ => hscalar (readScalar_null _))
    unfold IsNeutral
    decide
  case bool =>
    intro b
    have hneutral : ∀ c ∈ (if b then "true" else "false" : Text), IsNeutral c := by
      unfold IsNeutral
      cases b <;> decide
    cases b with
    | true => exact withinNesting_of_scalar (c := 't') rfl (by decide) hneutral (fun _ => hscalar (readScalar_bool true _))
    | false => exact withinNesting_of_scalar (c := 'f') rfl (by decide) hneutral (fun _ => hscalar (readScalar_bool false _))
  case number =>
    intro n v hwritten hmeans
    exact withinNesting_number hwritten fun hrest => hscalar (readScalar_number hwritten hmeans hrest)

end ScalarReaders

/-- A text of JSON is taken as the value that it denotes wherever its nesting is allowed. -/
theorem taken_of_denotes {s : Text} {v : Value} (h : Denotes s v) :
    WithinNesting (fun depth => Taken (readValue depth)) s v := by
  rw [← readValueBy_readScalar]
  exact takenBy_of_denotes id h

/-- A value whose text begins neither with a quote nor with a bracket is read as a scalar by the reader of values. -/
theorem readValue_eq_readScalar {c : CodePoint} (s : Text) (depth : Nat) (hquote : c ≠ '"') (hopening : isOpening c = false) :
    readValue depth (c :: s) = readScalar (c :: s) := by
  rw [← readValueBy_readScalar]
  exact readValueBy_eq_scalar s depth hquote hopening

/-! ## Whole texts -/

/-- No value begins with the mark that some writers put in front of a text. -/
theorem readValue_byteOrderMark (depth : Nat) (s : Text) :
    readValue depth (byteOrderMark :: s) = .error (.problem .expectingValue (byteOrderMark :: s)) := by
  rw [readValue_eq_readScalar s depth (by decide) (by decide)]
  rfl

/-- A text that is read is a document of the value. -/
theorem isDocument_of_read {text : Text} {v : Value} (h : read text = .ok v) : IsDocument text v := by
  rw [read] at h
  split at h
  · cases h
  · split at h
    · cases h
    · next w rest hread =>
      obtain ⟨before, hbefore, htext⟩ := exists_isSpace_of_skipSpace text
      obtain ⟨body, hbody, hdenotes⟩ := denotes_of_readValue _ hread
      obtain ⟨after, hafter, hrest⟩ := exists_isSpace_of_skipSpace rest
      split at h
      · next hnil =>
        cases h
        rw [hnil, List.append_nil] at hrest
        refine ⟨before, body, rest, ?_, hbefore, ?_, hdenotes⟩
        · rw [htext, hbody]
        · rw [hrest]
          exact hafter
      · cases h

/-- A document whose nesting is within the limit is read as its value. -/
theorem read_of_isDocument {text : Text} {v : Value} (h : IsDocument text v) (hnesting : nesting text ≤ nestingLimit) :
    read text = .ok v := by
  obtain ⟨before, s, after, rfl, hbefore, hafter, hdenotes⟩ := h
  obtain ⟨k, hk, htaken⟩ := taken_of_denotes hdenotes
  have hlimit : k ≤ nestingLimit := by
    rw [(hbefore.balanced.append (hk.append hafter.balanced)).nesting_eq] at hnesting
    omega
  have hstarts := (htaken _ hlimit).starts
  have hskip : skipSpace (before ++ (s ++ after)) = s ++ after := skipSpace_append hbefore (hstarts.append after).begins
  have hend : Begins IsEnd after := by
    have hend := hafter.begins_append (begins_nil IsEnd)
    rw [List.append_nil] at hend
    exact hend
  have hread : readValue nestingLimit (s ++ after) = .ok (v, after) := (htaken _ hlimit).reads hend
  -- With the mark in front nothing would be skipped, and the value would begin with the mark.
  have hmark : (before ++ (s ++ after)).head? ≠ some byteOrderMark := by
    intro hhead
    obtain ⟨t, ht⟩ := List.head?_eq_some_iff.1 hhead
    rw [ht] at hskip
    have hskip' : skipSpace (byteOrderMark :: t) = byteOrderMark :: t := rfl
    rw [← hskip, hskip', readValue_byteOrderMark] at hread
    cases hread
  rw [read, if_neg hmark, hskip, hread]
  dsimp only
  rw [skipSpace_of_isSpace hafter]

end Json

end Admission
