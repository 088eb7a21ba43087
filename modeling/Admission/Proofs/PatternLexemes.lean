import Mathlib.Tactic.IntervalCases
import Admission.Proofs.Directives
import Admission.Proofs.PatternSegments

/-!
# How any pattern is translated

A pattern that a client sends need not name a date. Whatever it is, it is taken apart from the left: into texts in quotes, the longest
runs of the letter of a unit, percent signs and single code points (`Lexes`). There is one way to do so, and the format of the pattern
is made of the lexemes one by one (`format_lexemes`). No percent sign of a client becomes a directive, and no directive of the format is
unknown or cut off (`IsFormat`).
-/

namespace Admission.DatePattern

/-- The letter of a unit. -/
def DateUnit.letter : DateUnit → CodePoint
  | .year => 'y'
  | .month => 'M'
  | .day => 'd'

/-- The letters of the units. -/
def unitLetters : List CodePoint := ['y', 'M', 'd']

/-- A lexeme of a pattern: a text in quotes, a run of the letter of a unit, a percent sign, or another code point. -/
inductive Lexeme where
  | quoted (s : Text)
  | run (u : DateUnit) (n : Nat)
  | percent
  | other (c : CodePoint)
  deriving DecidableEq

/-- A text over and over. -/
def repeated (count : Nat) (s : Text) : Text := (List.replicate count s).flatten

/-- A text with each percent sign doubled. -/
def doubled (s : Text) : Text := s.flatMap fun c : CodePoint => if c = '%' then ['%', '%'] else [c]

/-- What is left of a run of the year's letter behind all groups of four; one letter alone stands for itself. -/
def yearRest : Nat → Text
  | 1 => "y"
  | 2 => "%y"
  | 3 => "%yy"
  | _ => []

/-- What is left of a run of the month's letter behind all groups of four. -/
def monthRest : Nat → Text
  | 1 | 2 => "%m"
  | 3 => "%b"
  | _ => []

namespace Lexeme

/-- A lexeme as it stands in a pattern. -/
def spelling : Lexeme → Text
  | .quoted s => CodePoint.ofChar '\'' :: (s ++ [CodePoint.ofChar '\''])
  | .run u n => List.replicate n u.letter
  | .percent => ['%']
  | .other c => [c]

/-- A lexeme fits what stands behind it. No quote stands in a text in quotes, a run is not empty and is not carried on, and only a quote
that no other follows stands for itself. -/
def Fits (behind : Text) : Lexeme → Prop
  | .quoted s => CodePoint.ofChar '\'' ∉ s
  | .run u n => 0 < n ∧ behind.head? ≠ some u.letter
  | .percent => True
  | .other c => c ≠ '%' ∧ c ∉ unitLetters ∧ (c = '\'' → CodePoint.ofChar '\'' ∉ behind)

instance (behind : Text) : (l : Lexeme) → Decidable (l.Fits behind)
  | .quoted s => inferInstanceAs (Decidable (CodePoint.ofChar '\'' ∉ s))
  | .run u n => inferInstanceAs (Decidable (0 < n ∧ behind.head? ≠ some u.letter))
  | .percent => .isTrue trivial
  | .other c => inferInstanceAs (Decidable (c ≠ '%' ∧ c ∉ unitLetters ∧ (c = '\'' → CodePoint.ofChar '\'' ∉ behind)))

/-- A lexeme in a format. -/
def format : Lexeme → Text
  | .quoted s => doubled s
  | .run .year n => repeated (n / 4) "%Y" ++ yearRest (n % 4)
  | .run .month n => repeated (n / 4) "%B" ++ monthRest (n % 4)
  | .run .day n => repeated ((n + 1) / 2) "%d"
  | .percent => "%%"
  | .other c => [c]

end Lexeme

/-- The pattern of lexemes. -/
def written (lexemes : List Lexeme) : Text := lexemes.flatMap Lexeme.spelling

/-- Each lexeme fits those behind it. -/
def AllFit : List Lexeme → Prop
  | [] => True
  | l :: rest => l.Fits (written rest) ∧ AllFit rest

instance decidableAllFit : (lexemes : List Lexeme) → Decidable (AllFit lexemes)
  | [] => .isTrue trivial
  | l :: rest =>
    have := decidableAllFit rest
    inferInstanceAs (Decidable (l.Fits (written rest) ∧ AllFit rest))

/-- A pattern is taken apart into lexemes: it is written of them, and each fits those behind it. -/
structure Lexes (pattern : Text) (lexemes : List Lexeme) : Prop where
  written_eq : written lexemes = pattern
  fit : AllFit lexemes

instance (pattern : Text) (lexemes : List Lexeme) : Decidable (Lexes pattern lexemes) :=
  decidable_of_iff (written lexemes = pattern ∧ AllFit lexemes) ⟨fun h => ⟨h.1, h.2⟩, fun h => ⟨h.1, h.2⟩⟩

/-- Every percent sign of a text begins a directive that is known: the code point behind it names a part of a date, or is a percent sign
that stands for itself. -/
inductive IsFormat : Text → Prop where
  | nil : IsFormat []
  | directive {c : CodePoint} {rest : Text} (known : c = '%' ∨ c ∈ directiveLetters) (h : IsFormat rest) :
    IsFormat (CodePoint.ofChar '%' :: c :: rest)
  | plain {c : CodePoint} {rest : Text} (other : c ≠ '%') (h : IsFormat rest) : IsFormat (c :: rest)

theorem written_cons (l : Lexeme) (rest : List Lexeme) : written (l :: rest) = l.spelling ++ written rest := rfl

/-! ## One way to take a pattern apart -/

theorem letter_injective {u v : DateUnit} (h : u.letter = v.letter) : u = v := by
  cases u <;> cases v <;> first | rfl | exact absurd h (by decide)

/-- The letters of the units are those that units have. -/
theorem mem_unitLetters_iff (c : CodePoint) : c ∈ unitLetters ↔ ∃ u : DateUnit, u.letter = c := by
  simp only [unitLetters, List.mem_cons, List.not_mem_nil, or_false]
  constructor
  · rintro (rfl | rfl | rfl)
    · exact ⟨.year, rfl⟩
    · exact ⟨.month, rfl⟩
    · exact ⟨.day, rfl⟩
  · rintro ⟨u, rfl⟩
    cases u
    · exact .inl rfl
    · exact .inr (.inl rfl)
    · exact .inr (.inr rfl)

theorem letter_ne (u : DateUnit) : u.letter ≠ '\'' ∧ u.letter ≠ '%' := by
  cases u <;> decide

/-- The letter of a unit has the role of one. -/
theorem ofCodePoint_letter (u : DateUnit) : Symbol.ofCodePoint u.letter = u.symbol := by
  cases u <;> rfl

/-- Two runs of a code point that are not carried on, in front of one text, are equally long. -/
theorem run_unique {c : CodePoint} {n m : Nat} {rest behind : Text} (hrest : rest.head? ≠ some c) (hbehind : behind.head? ≠ some c)
    (h : List.replicate n c ++ rest = List.replicate m c ++ behind) : n = m ∧ rest = behind := by
  induction n generalizing m with
  | zero =>
    cases m with
    | zero => exact ⟨rfl, h⟩
    | succ m => exact absurd (congrArg List.head? h) hrest
  | succ n ih =>
    cases m with
    | zero => exact absurd (congrArg List.head? h.symm) hbehind
    | succ m =>
      obtain ⟨hn, hrest⟩ := ih (List.cons.inj h).2
      exact ⟨congrArg Nat.succ hn, hrest⟩

/-- A text up to the first place of a code point is determined, and so is what stands behind that place. -/
theorem upTo_unique {c : CodePoint} {s t rest behind : Text} (hs : c ∉ s) (ht : c ∉ t) (h : s ++ c :: rest = t ++ c :: behind) :
    s = t ∧ rest = behind := by
  induction s generalizing t with
  | nil =>
    cases t with
    | nil => exact ⟨rfl, (List.cons.inj h).2⟩
    | cons d t => exact absurd (List.mem_cons.2 (.inl (List.cons.inj h).1)) ht
  | cons d s ih =>
    cases t with
    | nil => exact absurd (List.mem_cons.2 (.inl (List.cons.inj h).1.symm)) hs
    | cons e t =>
      obtain ⟨rfl, hmore⟩ := List.cons.inj h
      obtain ⟨rfl, hrest⟩ := ih (List.not_mem_of_not_mem_cons hs) (List.not_mem_of_not_mem_cons ht) hmore
      exact ⟨rfl, hrest⟩

/-- In front of every text stands a run of a code point, perhaps an empty one. -/
theorem exists_run (c : CodePoint) (s : Text) : ∃ n behind, s = List.replicate n c ++ behind ∧ behind.head? ≠ some c := by
  induction s with
  | nil => exact ⟨0, [], rfl, nofun⟩
  | cons d s ih =>
    by_cases hd : d = c
    · obtain ⟨n, behind, rfl, hbehind⟩ := ih
      subst hd
      exact ⟨n + 1, behind, rfl, hbehind⟩
    · exact ⟨0, d :: s, rfl, fun h => hd (Option.some.inj h)⟩

namespace Lexeme

/-- The code point with which a lexeme begins. -/
def first : Lexeme → CodePoint
  | .quoted _ => '\''
  | .run u _ => u.letter
  | .percent => '%'
  | .other c => c

/-- A lexeme that fits begins with its first code point. -/
theorem Fits.spelling_eq {l : Lexeme} {behind : Text} (h : l.Fits behind) : ∃ rest, l.spelling = l.first :: rest := by
  cases l with
  | quoted s => exact ⟨_, rfl⟩
  | run u n =>
    obtain ⟨m, rfl⟩ := Nat.exists_eq_succ_of_ne_zero (Nat.pos_iff_ne_zero.1 h.1)
    exact ⟨_, List.replicate_succ⟩
  | percent => exact ⟨_, rfl⟩
  | other c => exact ⟨_, rfl⟩

/-- A text in quotes is not taken for an open quote: another quote stands behind the first one. -/
theorem not_fits_quote {s rest behind : Text} (h : (quoted s).spelling ++ rest = CodePoint.ofChar '\'' :: behind) :
    ¬ (other (CodePoint.ofChar '\'')).Fits behind := by
  intro hfits
  refine hfits.2.2 rfl ?_
  rw [← (List.cons.inj h).2]
  simp

/-- The lexeme in front of a text is determined by the text, and so is what stands behind it. Lexemes of different kinds begin with
different code points, apart from the quote, which opens a text in quotes exactly when another follows. -/
theorem Fits.unique {l k : Lexeme} {rest behind : Text} (hl : l.Fits rest) (hk : k.Fits behind)
    (h : l.spelling ++ rest = k.spelling ++ behind) : l = k ∧ rest = behind := by
  have hfirst : l.first = k.first := by
    obtain ⟨t, ht⟩ := hl.spelling_eq
    obtain ⟨s, hs⟩ := hk.spelling_eq
    rw [ht, hs] at h
    exact (List.cons.inj h).1
  cases l with
  | quoted s =>
    cases k with
    | quoted t =>
      have hinside : s ++ CodePoint.ofChar '\'' :: rest = t ++ CodePoint.ofChar '\'' :: behind := by
        simpa only [spelling, List.cons_append, List.append_assoc, List.nil_append, List.cons.injEq, true_and] using h
      obtain ⟨rfl, hrest⟩ := upTo_unique hl hk hinside
      exact ⟨rfl, hrest⟩
    | run u n => exact absurd hfirst.symm (letter_ne u).1
    | percent => exact absurd hfirst (by simp only [first]; decide)
    | other c =>
      obtain rfl : CodePoint.ofChar '\'' = c := hfirst
      exact absurd hk (not_fits_quote h)
  | run u n =>
    cases k with
    | quoted t => exact absurd hfirst (letter_ne u).1
    | run v m =>
      obtain rfl := letter_injective hfirst
      obtain ⟨rfl, hrest⟩ := run_unique hl.2 hk.2 h
      exact ⟨rfl, hrest⟩
    | percent => exact absurd hfirst (letter_ne u).2
    | other c => exact absurd ((mem_unitLetters_iff c).2 ⟨u, hfirst⟩) hk.2.1
  | percent =>
    cases k with
    | quoted t => exact absurd hfirst (by simp only [first]; decide)
    | run u n => exact absurd hfirst.symm (letter_ne u).2
    | percent => exact ⟨rfl, (List.cons.inj h).2⟩
    | other c => exact absurd hfirst.symm hk.1
  | other c =>
    cases k with
    | quoted t =>
      obtain rfl : c = CodePoint.ofChar '\'' := hfirst
      exact absurd hl (not_fits_quote h.symm)
    | run u n => exact absurd ((mem_unitLetters_iff c).2 ⟨u, hfirst.symm⟩) hl.2.1
    | percent => exact absurd hfirst hl.1
    | other d =>
      obtain ⟨rfl, hrest⟩ := List.cons.inj h
      exact ⟨rfl, hrest⟩

/-- A text that is not empty begins with a lexeme. -/
theorem exists_fits (c : CodePoint) (s : Text) : ∃ (l : Lexeme) (behind : Text), c :: s = l.spelling ++ behind ∧ l.Fits behind := by
  by_cases hpercent : c = '%'
  · subst hpercent
    exact ⟨.percent, s, rfl, trivial⟩
  by_cases hletter : c ∈ unitLetters
  · obtain ⟨u, rfl⟩ := (mem_unitLetters_iff c).1 hletter
    obtain ⟨n, behind, rfl, hbehind⟩ := exists_run u.letter s
    exact ⟨.run u (n + 1), behind, rfl, n.succ_pos, hbehind⟩
  by_cases hclosed : c = '\'' ∧ CodePoint.ofChar '\'' ∈ s
  · obtain ⟨rfl, hmem⟩ := hclosed
    obtain ⟨t, behind, rfl, ht⟩ := List.eq_append_cons_of_mem hmem
    exact ⟨.quoted t, behind, by simp [spelling], ht⟩
  · exact ⟨.other c, s, rfl, hpercent, hletter, fun hc hmem => hclosed ⟨hc, hmem⟩⟩

end Lexeme

/-- Every pattern is taken apart. -/
theorem exists_lexes (pattern : Text) : ∃ lexemes, Lexes pattern lexemes := by
  -- Each lexeme is followed by a shorter text.
  induction hn : pattern.length using Nat.strongRecOn generalizing pattern with
  | ind n ih =>
    cases pattern with
    | nil => exact ⟨[], rfl, trivial⟩
    | cons c s =>
      obtain ⟨l, behind, hs, hfits⟩ := Lexeme.exists_fits c s
      obtain ⟨t, ht⟩ := hfits.spelling_eq
      have hshorter : behind.length < n := by
        rw [← hn, hs, ht]
        simp only [List.cons_append, List.length_cons, List.length_append]
        omega
      obtain ⟨lexemes, hlexes⟩ := ih behind.length hshorter behind rfl
      refine ⟨l :: lexemes, ?_, ?_, hlexes.fit⟩
      · rw [written_cons, hlexes.written_eq, hs]
      · rwa [hlexes.written_eq]

/-- A pattern is taken apart in one way. -/
theorem AllFit.unique {lexemes others : List Lexeme} (h : AllFit lexemes) (hothers : AllFit others)
    (hwritten : written lexemes = written others) : lexemes = others := by
  have hempty {l : Lexeme} {rest : List Lexeme} (hfits : l.Fits (written rest)) : written (l :: rest) ≠ [] := by
    obtain ⟨t, ht⟩ := hfits.spelling_eq
    rw [written_cons, ht]
    exact List.cons_ne_nil _ _
  induction lexemes generalizing others with
  | nil =>
    cases others with
    | nil => rfl
    | cons k more => exact absurd hwritten.symm (hempty hothers.1)
  | cons l rest ih =>
    cases others with
    | nil => exact absurd hwritten (hempty h.1)
    | cons k more =>
      obtain ⟨rfl, hrest⟩ := h.1.unique hothers.1 hwritten
      rw [ih h.2 hothers.2 hrest]

/-! ## The format of lexemes -/

/-- How many letters of a unit the widest part takes. -/
def DateUnit.width : DateUnit → Nat
  | .year | .month => 4
  | .day => 2

/-- The part that the most letters of a unit name. -/
def DateUnit.widest : DateUnit → DatePart
  | .year => .year
  | .month => .monthName
  | .day => .day

theorem repeated_succ (count : Nat) (s : Text) : repeated (count + 1) s = s ++ repeated count s := rfl

/-- The widest part stands in front of the format of a run that has the letters for it. -/
theorem format_run_add (u : DateUnit) (n : Nat) :
    (Lexeme.run u (n + u.width)).format = (Piece.part u.widest).format ++ (Lexeme.run u n).format := by
  cases u with
  | year =>
    have hcount : (n + 4) / 4 = n / 4 + 1 := by omega
    have hrest : (n + 4) % 4 = n % 4 := by omega
    simp only [Lexeme.format, DateUnit.width, hcount, hrest, repeated_succ, List.append_assoc]
    rfl
  | month =>
    have hcount : (n + 4) / 4 = n / 4 + 1 := by omega
    have hrest : (n + 4) % 4 = n % 4 := by omega
    simp only [Lexeme.format, DateUnit.width, hcount, hrest, repeated_succ, List.append_assoc]
    rfl
  | day =>
    have hcount : (n + 2 + 1) / 2 = (n + 1) / 2 + 1 := by omega
    simp only [Lexeme.format, DateUnit.width, hcount, repeated_succ]
    rfl

/-- The widest part is taken from a run that has the letters for it. -/
theorem piecesOf_run_add (u : DateUnit) (n : Nat) (rest : List Symbol) :
    piecesOf false (List.replicate (n + u.width) u.symbol ++ rest) =
      .part u.widest :: piecesOf false (List.replicate n u.symbol ++ rest) := by
  cases u <;> rfl

/-- A run that is too short for the widest part is translated as its format says. -/
theorem flatMap_short_run {u : DateUnit} {n : Nat} (hn : n < u.width) {rest : List Symbol} (h : rest.head? ≠ some u.symbol) :
    (piecesOf false (List.replicate n u.symbol ++ rest)).flatMap Piece.format =
      (Lexeme.run u n).format ++ (piecesOf false rest).flatMap Piece.format := by
  cases rest with
  | nil => cases u <;> simp only [DateUnit.width] at hn <;> interval_cases n <;> rfl
  | cons s rest =>
    -- Both sides compute, unless the next symbol is the letter of the run.
    cases u <;> simp only [DateUnit.width] at hn <;> interval_cases n <;> cases s <;> first | rfl | exact absurd rfl h

/-- A run that is not carried on is translated as its format says. -/
theorem flatMap_run (u : DateUnit) (n : Nat) {rest : List Symbol} (h : rest.head? ≠ some u.symbol) :
    (piecesOf false (List.replicate n u.symbol ++ rest)).flatMap Piece.format =
      (Lexeme.run u n).format ++ (piecesOf false rest).flatMap Piece.format := by
  induction n using Nat.strongRecOn with
  | ind n ih =>
    rcases Nat.lt_or_ge n u.width with hn | hn
    · exact flatMap_short_run hn h
    · obtain ⟨k, rfl⟩ := Nat.exists_eq_add_of_le' hn
      have hk : k < k + u.width := by
        cases u <;> simp only [DateUnit.width] <;> omega
      rw [piecesOf_run_add, format_run_add, List.flatMap_cons, ih k hk, List.append_assoc]

/-- A quote that no other follows stands for itself. -/
theorem piecesOf_openQuote {s : Text} (h : CodePoint.ofChar '\'' ∉ s) :
    piecesOf false (.apostrophe :: s.map Symbol.ofCodePoint) = .literal '\'' :: piecesOf false (s.map Symbol.ofCodePoint) := by
  rw [piecesOf, if_neg]
  simp only [List.any_map, List.any_eq_true, Function.comp_apply, not_exists, not_and, Bool.not_eq_true]
  intro c hc
  exact isApostrophe_ofCodePoint fun e => h (e ▸ hc)

/-- Code points that stand for themselves are formatted as one text with each percent sign doubled. -/
theorem flatMap_map_literal (s : Text) : (s.map Piece.literal).flatMap Piece.format = doubled s := List.flatMap_map ..

/-- The role of a letter begins what is written of a text exactly when the letter begins the text. -/
theorem head?_map_ne {u : DateUnit} {s : Text} (h : s.head? ≠ some u.letter) :
    (s.map Symbol.ofCodePoint).head? ≠ some u.symbol := by
  rw [List.head?_map]
  intro hsymbol
  obtain ⟨c, hc, hrole⟩ := Option.map_eq_some_iff.1 hsymbol
  rw [← ofCodePoint_letter] at hrole
  rw [← codePoint_ofCodePoint c, hrole, codePoint_ofCodePoint] at hc
  exact h hc

/-- The lexeme in front of a pattern is translated as its format says. -/
theorem flatMap_lexeme {l : Lexeme} {behind : Text} (h : l.Fits behind) :
    (piecesOf false ((l.spelling ++ behind).map Symbol.ofCodePoint)).flatMap Piece.format =
      l.format ++ (piecesOf false (behind.map Symbol.ofCodePoint)).flatMap Piece.format := by
  rw [List.map_append]
  cases l with
  | quoted s =>
    rw [Lexeme.spelling, map_inQuotes, piecesOf_quoted h, List.flatMap_append, flatMap_map_literal, Lexeme.format]
  | run u n =>
    rw [Lexeme.spelling, List.map_replicate, ofCodePoint_letter, flatMap_run u n (head?_map_ne h.2)]
  | percent => rfl
  | other c =>
    obtain ⟨hpercent, hletter, hopen⟩ := h
    have hpiece : (Piece.literal c).format = [c] := if_neg hpercent
    rw [Lexeme.spelling, Lexeme.format]
    by_cases hquote : c = '\''
    · subst hquote
      exact congrArg (List.flatMap Piece.format) (piecesOf_openQuote (hopen rfl))
    · have hplain : c ∉ reserved := by
        simp only [unitLetters, List.mem_cons, List.not_mem_nil, or_false, not_or] at hletter
        simp only [reserved, List.mem_cons, List.not_mem_nil, or_false, not_or]
        exact ⟨hletter.1, hletter.2.1, hletter.2.2, hquote⟩
      rw [List.map_singleton, List.singleton_append, piecesOf_plain hplain, List.flatMap_cons, hpiece]

/-- The format of a pattern is made of its lexemes one by one. -/
theorem format_written {lexemes : List Lexeme} (h : AllFit lexemes) : format (written lexemes) = lexemes.flatMap Lexeme.format := by
  unfold format pieces
  induction lexemes with
  | nil => rfl
  | cons l rest ih => rw [written_cons, flatMap_lexeme h.1, ih h.2, List.flatMap_cons]

/-- Every percent sign of a format begins a known directive. -/
theorem isFormat_format (pattern : Text) : IsFormat (format pattern) := by
  unfold format
  induction pieces pattern with
  | nil => exact .nil
  | cons p rest ih =>
    rw [List.flatMap_cons]
    cases p with
    | part p => exact .directive (.inr ((mem_directiveLetters_iff _).2 ⟨p, rfl⟩)) ih
    | literal c =>
      by_cases hc : c = '%'
      · subst hc
        exact .directive (.inl rfl) ih
      · rw [Piece.format, if_neg hc]
        exact .plain hc ih

/-! ## Any pattern -/

/-- How any pattern is translated, in three parts.
1. A pattern is taken apart from the left in one way: into texts in quotes, the longest runs of the letter of a unit, percent signs and
   single code points, of which a quote that no other follows is one.
2. Its format is made of these one by one: a text in quotes with its percent signs doubled, a run by groups of its letter and what they
   leave, a percent sign doubled, and any other code point as it is.
3. Every percent sign of the format begins a known directive. -/
theorem format_lexemes (pattern : Text) :
    ∃ lexemes, Lexes pattern lexemes ∧ (∀ others, Lexes pattern others → others = lexemes) ∧
      format pattern = lexemes.flatMap Lexeme.format ∧ IsFormat (format pattern) := by
  obtain ⟨lexemes, hlexes⟩ := exists_lexes pattern
  refine ⟨lexemes, hlexes, ?_, ?_, isFormat_format pattern⟩
  · intro others hothers
    exact hothers.fit.unique hlexes.fit (hothers.written_eq.trans hlexes.written_eq.symm)
  · rw [← hlexes.written_eq, format_written hlexes.fit]

/-- Runs that are longer than any part, percent signs in quotes and outside them, and a quote that stands for itself. -/
theorem format_long_runs :
    format "yyyyyMMMMMMMddd%'5% d'x'yyy" = "%Yy%B%b%d%d%%5%% dx'%yy" := by
  have hlexes : Lexes "yyyyyMMMMMMMddd%'5% d'x'yyy"
      [.run .year 5, .run .month 7, .run .day 3, .percent, .quoted "5% d", .other 'x', .other '\'', .run .year 3] := by decide
  obtain ⟨lexemes, -, hunique, hformat, -⟩ := format_lexemes "yyyyyMMMMMMMddd%'5% d'x'yyy"
  rw [hformat, ← hunique _ hlexes]
  rfl

end Admission.DatePattern
