import Admission.DatePattern.Basic

/-!
# Patterns as they are written

A client writes a pattern as a row of segments: a token for a part of the date, a text in quotes, or a code point that stands
for itself. A pattern that names each unit of a date at most once is taken apart into the pieces of its segments, one segment
after another (`pieces_spelling`): no token runs into a neighbour, and no quote into text outside it.
-/

namespace Admission.DatePattern

/-- What a date is made of. -/
inductive DateUnit where
  | year
  | month
  | day
  deriving DecidableEq

/-- A token of a pattern: a run of one letter that names a part of a date in one way of writing it. -/
inductive Token where
  | year
  | shortYear
  | monthName
  | shortMonthName
  | paddedMonth
  | month
  | paddedDay
  | day
  deriving DecidableEq

namespace Token

/-- The letters of a token. -/
def spelling : Token → Text
  | .year => "yyyy"
  | .shortYear => "yy"
  | .monthName => "MMMM"
  | .shortMonthName => "MMM"
  | .paddedMonth => "MM"
  | .month => "M"
  | .paddedDay => "dd"
  | .day => "d"

/-- The part of a date that a token names. A number is read alike with a zero in front and without one. -/
def part : Token → DatePart
  | .year => .year
  | .shortYear => .shortYear
  | .monthName => .monthName
  | .shortMonthName => .shortMonthName
  | .paddedMonth | .month => .month
  | .paddedDay | .day => .day

/-- The unit of a date that a token writes. -/
def unit : Token → DateUnit
  | .year | .shortYear => .year
  | .monthName | .shortMonthName | .paddedMonth | .month => .month
  | .paddedDay | .day => .day

end Token

/-- The letter that tokens of a unit are made of. -/
def DateUnit.symbol : DateUnit → Symbol
  | .year => .y
  | .month => .m
  | .day => .d

/-- The code points that do not stand for themselves outside quotes. -/
def reserved : List CodePoint := ['y', 'M', 'd', '\'']

theorem symbol_inj {u v : DateUnit} (h : u.symbol = v.symbol) : u = v := by
  cases u <;> cases v <;> first | rfl | cases h

/-- A segment of a pattern: a token, a text in quotes, or a code point outside quotes. -/
inductive Segment where
  | token (t : Token)
  | quoted (s : Text) (closed : CodePoint.ofChar '\'' ∉ s)
  | plain (c : CodePoint) (free : c ∉ reserved)

namespace Segment

/-- A segment as it stands in a pattern. -/
def spelling : Segment → Text
  | .token t => t.spelling
  | .quoted s _ => CodePoint.ofChar '\'' :: (s ++ [CodePoint.ofChar '\''])
  | .plain c _ => [c]

/-- The pieces of a segment. -/
def pieces : Segment → List Piece
  | .token t => [.part t.part]
  | .quoted s _ => s.map .literal
  | .plain c _ => [.literal c]

/-- The token that a segment is, if it is one. -/
def token? : Segment → Option Token
  | .token t => some t
  | .quoted _ _ | .plain _ _ => none

end Segment

/-- The pattern of segments. -/
def spelling (segments : List Segment) : Text := segments.flatMap Segment.spelling

theorem spelling_cons (segment : Segment) (rest : List Segment) :
    spelling (segment :: rest) = segment.spelling ++ spelling rest := rfl

/-- The tokens among segments, in order. -/
def tokens (segments : List Segment) : List Token := segments.filterMap Segment.token?

/-- A pattern names a year, a month and a day, each once, in any order. -/
def NamesDate (segments : List Segment) : Prop := ((tokens segments).map Token.unit).Perm [.year, .month, .day]

instance (segments : List Segment) : Decidable (NamesDate segments) := inferInstanceAs (Decidable (List.Perm _ _))

theorem NamesDate.mem {segments : List Segment} (h : NamesDate segments) (u : DateUnit) :
    u ∈ (tokens segments).map Token.unit := by
  rw [h.mem_iff]
  cases u <;> decide

theorem NamesDate.nodup {segments : List Segment} (h : NamesDate segments) : ((tokens segments).map Token.unit).Nodup :=
  h.nodup_iff.2 (by decide)

theorem Segment.spelling_ne_nil (segment : Segment) : segment.spelling ≠ [] := by
  cases segment with
  | token t => cases t <;> decide
  | quoted q closed => exact List.cons_ne_nil _ _
  | plain c free => exact List.cons_ne_nil _ _

theorem spelling_ne_nil {segments : List Segment} (h : segments ≠ []) : spelling segments ≠ [] := by
  cases segments with
  | nil => exact absurd rfl h
  | cons segment rest => exact List.append_ne_nil_of_left_ne_nil segment.spelling_ne_nil _

/-! ## Symbols -/

/-- Only the apostrophe has the role of one. -/
theorem isApostrophe_ofCodePoint {c : CodePoint} (h : c ≠ CodePoint.ofChar '\'') :
    (Symbol.ofCodePoint c).isApostrophe = false := by
  rw [Symbol.ofCodePoint, if_neg h]
  split
  · rfl
  · split
    · rfl
    · split <;> rfl

/-- A symbol is the role of its code point. -/
theorem codePoint_ofCodePoint (c : CodePoint) : (Symbol.ofCodePoint c).codePoint = c := by
  unfold Symbol.ofCodePoint
  split
  · next h => exact h.symm
  · split
    · next h => exact h.symm
    · split
      · next h => exact h.symm
      · split
        · next h => exact h.symm
        · rfl

theorem ofCodePoint_of_free {c : CodePoint} (h : c ∉ reserved) : Symbol.ofCodePoint c = .other c := by
  simp only [reserved, List.mem_cons, List.not_mem_nil, or_false, not_or] at h
  obtain ⟨hy, hm, hd, hq⟩ := h
  rw [Symbol.ofCodePoint, if_neg hy, if_neg hm, if_neg hd, if_neg hq]

/-! ## One segment -/

/-- A token begins with the letter of its unit. -/
theorem head?_token (t : Token) (rest : List Symbol) :
    (t.spelling.map Symbol.ofCodePoint ++ rest).head? = some t.unit.symbol := by
  cases t <;> rfl

/-- A token is one piece when its letter does not follow it. -/
theorem piecesOf_token (t : Token) {rest : List Symbol} (h : rest.head? ≠ some t.unit.symbol) :
    piecesOf false (t.spelling.map Symbol.ofCodePoint ++ rest) = .part t.part :: piecesOf false rest := by
  cases rest with
  | nil => cases t <;> rfl
  | cons s rest =>
    -- Both sides compute, unless the next symbol is the letter of the token.
    cases t <;> cases s <;> first | rfl | exact absurd rfl h

/-- Text inside quotes stands for itself up to the next apostrophe, which ends it. -/
theorem piecesOf_inside {s : Text} (h : CodePoint.ofChar '\'' ∉ s) (rest : List Symbol) :
    piecesOf true (s.map Symbol.ofCodePoint ++ .apostrophe :: rest) = s.map .literal ++ piecesOf false rest := by
  have hstep (t : Symbol) (more : List Symbol) (ht : t.isApostrophe = false) :
      piecesOf true (t :: more) = .literal t.codePoint :: piecesOf true more := by
    cases t <;> first | rfl | cases ht
  induction s with
  | nil => rfl
  | cons c s ih =>
    obtain ⟨hc, hs⟩ := not_or.1 (mt List.mem_cons.2 h)
    rw [List.map_cons, List.cons_append, hstep _ _ (isApostrophe_ofCodePoint (Ne.symm hc)), codePoint_ofCodePoint, ih hs,
      List.map_cons, List.cons_append]

/-- A text in quotes stands for itself. -/
theorem piecesOf_quoted {s : Text} (h : CodePoint.ofChar '\'' ∉ s) (rest : List Symbol) :
    piecesOf false (.apostrophe :: (s.map Symbol.ofCodePoint ++ .apostrophe :: rest)) =
      s.map .literal ++ piecesOf false rest := by
  rw [piecesOf, if_pos (by simp [Symbol.isApostrophe]), piecesOf_inside h]

/-- A code point that is not reserved stands for itself. -/
theorem piecesOf_plain {c : CodePoint} (h : c ∉ reserved) (rest : List Symbol) :
    piecesOf false (Symbol.ofCodePoint c :: rest) = .literal c :: piecesOf false rest := by
  rw [ofCodePoint_of_free h]
  rfl

/-- The symbols of a text in quotes. -/
theorem map_inQuotes (s : Text) (rest : List Symbol) :
    (CodePoint.ofChar '\'' :: (s ++ [CodePoint.ofChar '\''])).map Symbol.ofCodePoint ++ rest =
      .apostrophe :: (s.map Symbol.ofCodePoint ++ .apostrophe :: rest) := by
  rw [List.map_cons, List.map_append, List.cons_append, List.append_assoc]
  rfl

/-! ## All segments -/

/-- A pattern begins with the letter of a unit only when a token of this unit is in it. -/
theorem head?_spelling_ne {segments : List Segment} {u : DateUnit} (h : u ∉ (tokens segments).map Token.unit) :
    ((spelling segments).map Symbol.ofCodePoint).head? ≠ some u.symbol := by
  cases segments with
  | nil => simp [spelling]
  | cons segment rest =>
    rw [spelling_cons, List.map_append]
    cases segment with
    | token t =>
      have hunit : t.unit ≠ u := fun e => h (by simp [tokens, Segment.token?, e])
      rw [Segment.spelling, head?_token]
      exact fun e => hunit (symbol_inj (Option.some.inj e))
    | quoted s closed =>
      rw [Segment.spelling, map_inQuotes]
      cases u <;> exact nofun
    | plain c free =>
      rw [Segment.spelling, List.map_singleton, ofCodePoint_of_free free]
      cases u <;> exact nofun

/-- A pattern that names no unit twice is taken apart into the pieces of its segments. -/
theorem pieces_spelling {segments : List Segment} (h : ((tokens segments).map Token.unit).Nodup) :
    pieces (spelling segments) = segments.flatMap Segment.pieces := by
  unfold pieces
  induction segments with
  | nil => rfl
  | cons segment rest ih =>
    rw [spelling_cons, List.map_append, List.flatMap_cons]
    cases segment with
    | token t =>
      obtain ⟨hnew, hrest⟩ := List.nodup_cons.1 h
      rw [Segment.spelling, piecesOf_token t (head?_spelling_ne hnew), ih hrest]
      rfl
    | quoted s closed => rw [Segment.spelling, map_inQuotes, piecesOf_quoted closed, ih h, Segment.pieces]
    | plain c free =>
      rw [Segment.spelling, List.map_singleton, List.singleton_append, piecesOf_plain free, ih h]
      rfl

/-- The parts of a pattern are those of its tokens. -/
theorem parts_spelling {segments : List Segment} (h : ((tokens segments).map Token.unit).Nodup) :
    parts (spelling segments) = (tokens segments).map Token.part := by
  rw [parts, pieces_spelling h]
  clear h
  induction segments with
  | nil => rfl
  | cons segment rest ih =>
    rw [List.flatMap_cons, List.filterMap_append, ih]
    cases segment with
    | token t => rfl
    | quoted s closed =>
      rw [Segment.pieces, List.filterMap_map]
      exact congrArg (· ++ _) (List.filterMap_eq_nil_iff.2 fun _ _ => rfl)
    | plain c free => rfl

/-- A pattern that names no unit twice names no part twice. -/
theorem nodup_parts_spelling {segments : List Segment} (h : ((tokens segments).map Token.unit).Nodup) :
    (parts (spelling segments)).Nodup := by
  have hunit : ∀ t q : Token, t.part = q.part → t.unit = q.unit := by
    intro t q
    cases t <;> cases q <;> decide
  rw [parts_spelling h]
  unfold List.Nodup at h ⊢
  rw [List.pairwise_map] at h ⊢
  exact h.imp fun hne hpart => hne (hunit _ _ hpart)

end Admission.DatePattern
