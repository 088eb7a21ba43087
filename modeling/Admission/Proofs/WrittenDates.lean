import Admission.Proofs.Extraction
import Admission.Proofs.MonthNames
import Admission.Proofs.PartSpellings
import Admission.Proofs.PatternSegments
import Admission.Proofs.Structure

/-!
# Dates written in the pattern of a client

A client that names a date format writes its dates in it: each token of the pattern is replaced by what it tells of the date, and all
else stands as it is. Such a text is read as the date it was written from (`dateField_written`), whatever the literal text around the
tokens, the order of the tokens and the letter case of names. Three things are asked of it: a year of two digits tells the year only
from 1969 to 2068, a number that is not padded has no digit behind it, and blanks at the ends, which are stripped, are left out.
-/

namespace Admission

namespace DatePattern

/-! ## Writing a date -/

/-- The number that a token tells of a date. -/
def Token.value (d : Date) : Token → Nat
  | .year => d.year
  | .shortYear => d.year % 100
  | .monthName | .shortMonthName | .paddedMonth | .month => d.month
  | .paddedDay | .day => d.day

/-- A token whose number is written in as many digits as it has. -/
def Token.isUnpadded : Token → Bool
  | .month | .day => true
  | .year | .shortYear | .monthName | .shortMonthName | .paddedMonth | .paddedDay => false

/-- What a token writes of a date. Names of months are English, in full or their first three letters, in any letter case. -/
inductive Token.Writes (d : Date) : Token → Text → Prop where
  | year : Writes d .year (Text.padded 4 d.year)
  | shortYear (century : 1969 ≤ d.year ∧ d.year ≤ 2068) : Writes d .shortYear (Text.padded 2 (d.year % 100))
  | monthName {name w : Text} (month : monthNames[d.month - 1]? = some name) (h : name.InAnyCase w) : Writes d .monthName w
  | shortMonthName {name w : Text} (month : monthNames[d.month - 1]? = some name) (h : Text.InAnyCase (name.take 3) w) :
      Writes d .shortMonthName w
  | paddedMonth : Writes d .paddedMonth (Text.padded 2 d.month)
  | month : Writes d .month (Text.ofNat d.month)
  | paddedDay : Writes d .paddedDay (Text.padded 2 d.day)
  | day : Writes d .day (Text.ofNat d.day)

/-- A date written by the segments of a pattern. No digit of any script stands behind a number that is not padded. -/
inductive Writes (d : Date) : List Segment → Text → Prop where
  | nil : Writes d [] []
  | token {t : Token} {w s : Text} {segments : List Segment} (h : t.Writes d w) (apart : t.isUnpadded = true → NoDigit s)
      (rest : Writes d segments s) : Writes d (.token t :: segments) (w ++ s)
  | quoted {q s : Text} {closed : CodePoint.ofChar '\'' ∉ q} {segments : List Segment} (rest : Writes d segments s) :
      Writes d (.quoted q closed :: segments) (q ++ s)
  | plain {c : CodePoint} {free : c ∉ reserved} {s : Text} {segments : List Segment} (rest : Writes d segments s) :
      Writes d (.plain c free :: segments) (c :: s)

/-! ## Reading what a token writes -/

/-- A year has at most four digits. -/
theorem spellsDigits_year (d : Date) : (Text.padded 4 d.year).SpellsDigits 4 d.year :=
  Text.spellsDigits_padded (by decide) (by have := d.year_mem; omega)

variable {d : Date} {t : Token} {w s : Text} {segments : List Segment}

/-- What a token writes is the first thing that its part takes, and gives the number that the token tells. -/
theorem Token.Writes.head?_ways (h : t.Writes d w) (apart : t.isUnpadded = true → NoDigit s) :
    (partWays t.part (w ++ s)).head? = some (some (t.value d), s) := by
  have hday : 1 ≤ d.day ∧ d.day ≤ 31 := ⟨d.day_mem.1, d.day_le⟩
  have hmonth : d.month - 1 + 1 = d.month := Nat.sub_add_cancel d.month_mem.1
  cases h with
  | year => exact head?_ways_year (spellsDigits_year d) s
  | shortYear => exact head?_ways_shortYear (Text.spellsDigits_padded (by decide) (by omega)) s
  | @monthName name w month h =>
    have hfound := head?_namedMonths isDistinct_monthNames.1 month h s
    rwa [hmonth] at hfound
  | @shortMonthName name w month h =>
    have hshort : (monthNames.map (·.take 3))[d.month - 1]? = some (name.take 3) := by
      rw [List.getElem?_map, month]
      rfl
    have hfound := head?_namedMonths isDistinct_monthNames.2 hshort h s
    rwa [hmonth] at hfound
  | paddedMonth => exact head?_ways_month_padded d.month_mem s
  | month => exact head?_ways_month ⟨d.month_mem, .inl rfl⟩ (apart rfl)
  | paddedDay => exact head?_ways_day_padded hday s
  | day => exact head?_ways_day ⟨hday, .inl rfl⟩ (apart rfl)

/-- What a token writes is not empty and has no blank in it. -/
theorem Token.Writes.not_blank (h : t.Writes d w) : w ≠ [] ∧ ∀ c ∈ w, c.isBlank = false := by
  have hdigits {w : Text} (hw : Json.IsDigits w) : w ≠ [] ∧ ∀ c ∈ w, c.isBlank = false :=
    ⟨hw.1, fun c hc => CodePoint.isBlank_of_isDigit (CodePoint.isDigit_of_isAsciiDigit (hw.2 c hc))⟩
  have hletters {names : List Text} (hnames : IsDistinct names) {name w : Text} (hname : name ∈ names) (hw : name.InAnyCase w) :
      w ≠ [] ∧ ∀ c ∈ w, c.isBlank = false := by
    obtain ⟨hne, hvisible⟩ := hw.visible (hnames.small name hname) (hnames.ne_nil name hname)
    exact ⟨hne, fun c hc => Text.isBlank_of_visible (hvisible c hc).1 (hvisible c hc).2⟩
  cases h with
  | year | shortYear | paddedMonth | paddedDay => exact hdigits (Text.isDigits_padded _ _)
  | month | day => exact hdigits (Text.isDigits_ofNat _)
  | monthName month h => exact hletters isDistinct_monthNames.1 (List.mem_of_getElem? month) h
  | shortMonthName month h =>
    exact hletters isDistinct_monthNames.2 (List.mem_map_of_mem (List.mem_of_getElem? month)) h

theorem Spelt.literals {ps : List Piece} {found : List Found} (h : Spelt ps found s) (q : Text) :
    Spelt (q.map .literal ++ ps) found (q ++ s) := by
  induction q with
  | nil => exact h
  | cons c q ih => exact .literal ih

/-- What tokens tell of a date, each as the part that it names. -/
def told (d : Date) (ts : List Token) : List Found := ts.map fun t => (t.part, some (t.value d))

/-- A date written by segments is written out piece by piece, and tells what the tokens tell. -/
theorem Writes.spelt (h : Writes d segments s) : Spelt (segments.flatMap Segment.pieces) (told d (tokens segments)) s := by
  induction h with
  | nil => exact .nil
  | @token t w s segments hwrites apart rest ih =>
    obtain ⟨hne, hblank⟩ := hwrites.not_blank
    exact .part hne (fun c hc => hblank c (List.mem_of_mem_head? hc)) (hwrites.head?_ways apart) ih
  | @quoted q s closed segments rest ih => exact ih.literals q
  | plain rest ih => exact .literal ih

/-! ## The parts of the date -/

/-- The parts with a unit of a date put in. -/
def Parts.put (ps : Parts) (d : Date) : DateUnit → Parts
  | .year => { ps with year := d.year }
  | .month => { ps with month := d.month }
  | .day => { ps with day := d.day }

/-- What a token tells of a date puts its unit into the parts. A year of two digits is completed to the one it was taken from. -/
theorem Token.Writes.with_value (h : t.Writes d w) (ps : Parts) : ps.with t.part (t.value d) = ps.put d t.unit := by
  cases h with
  | shortYear century =>
    have hcentury : centuryOf (d.year % 100) = d.year := by
      unfold centuryOf
      split <;> omega
    simp only [Parts.with, Token.part, Token.value, Token.unit, Parts.put, hcentury]
  | _ => rfl

/-- The tokens of a date that is written put their units into the parts. -/
theorem Writes.ofFound (h : Writes d segments s) :
    Parts.ofFound (told d (tokens segments)) = some (((tokens segments).map Token.unit).foldl (·.put d) ⟨1900, 1, 1⟩) := by
  -- The parts that are already put in change from token to token, so they are left open.
  suffices hfold : ∀ ps : Parts, (told d (tokens segments)).foldl (fun parts f => parts.bind fun ps => f.2.map fun n => ps.with f.1 n)
      (some ps) = some (((tokens segments).map Token.unit).foldl (·.put d) ps) from hfold _
  induction h with
  | nil => exact fun _ => rfl
  | @token t w s segments hwrites apart rest ih =>
    intro ps
    change (told d (tokens segments)).foldl _ (some (ps.with t.part (t.value d))) = _
    rw [hwrites.with_value ps]
    exact ih _
  | quoted rest ih => exact ih
  | plain rest ih => exact ih

/-- Units that are put in are those of the date, and the others stay. -/
theorem foldl_put (d : Date) (units : List DateUnit) (ps : Parts) :
    units.foldl (·.put d) ps =
      ⟨if .year ∈ units then d.year else ps.year, if .month ∈ units then d.month else ps.month,
        if .day ∈ units then d.day else ps.day⟩ := by
  induction units generalizing ps with
  | nil => rfl
  | cons u units ih =>
    rw [List.foldl_cons, ih]
    cases u <;> simp [Parts.put]

/-- A date that is written in a pattern that names a date is read back. -/
theorem read_of_writes (h : Writes d segments s) (hnames : NamesDate segments) : read (spelling segments) s = .ok d := by
  have hparts : Parts.ofFound (told d (tokens segments)) = some ⟨d.year, d.month, d.day⟩ := by
    rw [h.ofFound, foldl_put, if_pos (hnames.mem .year), if_pos (hnames.mem .month), if_pos (hnames.mem .day)]
  refine (read_eq_ok_iff _ _ _).2 ⟨nodup_parts_spelling hnames.nodup, _, ?_, hparts⟩
  rw [pieces_spelling hnames.nodup]
  exact h.spelt.firstFit

/-! ## Blanks at the ends of a pattern -/

/-- A blank at an end of a segment is one that stands for itself outside quotes. -/
theorem Segment.eq_plain_of_isBlank {segment : Segment} {c : CodePoint} (hc : c.isBlank = true)
    (h : c ∈ segment.spelling.head? ∨ c ∈ segment.spelling.getLast?) : ∃ free, segment = .plain c free := by
  cases segment with
  | token t =>
    have hletters : ∀ e ∈ t.spelling, e.isBlank = false := by cases t <;> decide
    have hmem : c ∈ t.spelling := h.elim List.mem_of_mem_head? List.mem_of_getLast?
    rw [hletters c hmem] at hc
    cases hc
  | quoted q closed =>
    have hquote : CodePoint.ofChar '\'' = c := by simpa [Segment.spelling, List.getLast?_cons] using h
    rw [← hquote] at hc
    exact absurd hc (by decide)
  | plain e free =>
    have he : e = c := by simpa [Segment.spelling] using h
    subst he
    exact ⟨free, rfl⟩

/-- What is written by segments begins with what the first of them writes: itself, when it stands for itself. -/
theorem Writes.exists_of_cons {segment : Segment} (h : Writes d (segment :: segments) s) :
    ∃ w rest, s = w ++ rest ∧ Writes d segments rest ∧ ∀ c free, segment = .plain c free → w = [c] := by
  cases h with
  | token h apart rest => exact ⟨_, _, rfl, rest, nofun⟩
  | quoted rest => exact ⟨_, _, rfl, rest, nofun⟩
  | @plain c free s segments rest =>
    refine ⟨[c], s, rfl, rest, fun e _ he => ?_⟩
    cases he
    rfl

/-- A blank in front of a pattern is one in front of what is written by it. -/
theorem Writes.head?_of_isBlank (h : Writes d segments s) {c : CodePoint} (hc : c.isBlank = true)
    (hhead : c ∈ (spelling segments).head?) : c ∈ s.head? := by
  cases segments with
  | nil => cases hhead
  | cons segment rest =>
    rw [spelling_cons, List.head?_append_of_ne_nil _ segment.spelling_ne_nil] at hhead
    obtain ⟨free, hplain⟩ := Segment.eq_plain_of_isBlank hc (.inl hhead)
    obtain ⟨w, s', rfl, -, hw⟩ := h.exists_of_cons
    rw [hw c free hplain]
    rfl

/-- A blank at the end of a pattern is one at the end of what is written by it. -/
theorem Writes.getLast?_of_isBlank (h : Writes d segments s) {c : CodePoint} (hc : c.isBlank = true)
    (hlast : c ∈ (spelling segments).getLast?) : c ∈ s.getLast? := by
  induction segments generalizing s with
  | nil => cases hlast
  | cons segment rest ih =>
    obtain ⟨w, s', rfl, hrest, hw⟩ := h.exists_of_cons
    rw [List.getLast?_append]
    cases rest with
    | nil =>
      rw [spelling_cons, spelling, List.flatMap_nil, List.append_nil] at hlast
      obtain ⟨free, hplain⟩ := Segment.eq_plain_of_isBlank hc (.inr hlast)
      cases hrest
      rw [hw c free hplain]
      rfl
    | cons next rest =>
      rw [spelling_cons, List.getLast?_append_of_ne_nil _ (spelling_ne_nil (List.cons_ne_nil _ _))] at hlast
      rw [Option.mem_def.1 (ih hrest hlast)]
      rfl

/-- A pattern neither begins nor ends with a blank when what is written by it does not. -/
theorem Writes.isTrimmed_spelling (h : Writes d segments s) (hs : s.IsTrimmed) : (spelling segments).IsTrimmed := by
  constructor
  · intro c hc
    refine Bool.eq_false_iff.2 fun hblank => ?_
    exact Bool.eq_false_iff.1 (hs.head c (h.head?_of_isBlank hblank hc)) hblank
  · intro c hc
    refine Bool.eq_false_iff.2 fun hblank => ?_
    exact Bool.eq_false_iff.1 (hs.last c (h.getLast?_of_isBlank hblank hc)) hblank

theorem Writes.tokens_eq_nil (h : Writes d segments s) (hs : s = []) : tokens segments = [] := by
  induction h with
  | nil => rfl
  | token h apart rest ih => exact absurd (List.append_eq_nil_iff.1 hs).1 h.not_blank.1
  | quoted rest ih => exact ih (List.append_eq_nil_iff.1 hs).2
  | plain rest ih => cases hs

end DatePattern

namespace Payload

open DatePattern

/-- Dates that a client writes in its own pattern are read back. When the date format of a payload is a pattern that names a year, a
month and a day once each, in any order and with any literal text, then a field that holds a date written in this pattern, with no blank
at either end, reads as the date. Whatever else the payload holds, its locale among it, has no part in this. -/
theorem dateField_written (defaults : Defaults) (payload : Payload) (name : Text) (d : Date) (segments : List Segment) (s : Text)
    (hname : name ≠ []) (hpattern : payload.get dateFormatName = .str (spelling segments)) (hnames : NamesDate segments)
    (hvalue : payload.get name = .str s) (hwrites : Writes d segments s) (htrimmed : s.IsTrimmed) :
    payload.dateField defaults name = .ok (some d) := by
  have htokens : tokens segments ≠ [] := fun hnil => by
    have := hnames.mem .year
    rw [hnil] at this
    cases this
  have hsegments : segments ≠ [] := fun hnil => htokens (by rw [hnil]; rfl)
  have hformat : payload.dateFormat defaults = .ok (spelling segments) := by
    have hstrip := (hwrites.isTrimmed_spelling htrimmed).strip
    rw [dateFormat, contextText, hpattern]
    simp only [hstrip, if_neg (spelling_ne_nil hsegments)]
  have hblank : s.isBlank = false := by
    rw [← Text.strip_ne_nil_iff, htrimmed.strip]
    exact fun hs => htokens (hwrites.tokens_eq_nil hs)
  rw [dateField_eq hname, hformat, hvalue, dateOf_eq_ok_some_iff]
  refine ⟨hblank, ?_⟩
  rw [htrimmed.strip]
  exact read_of_writes hwrites hnames

/-- A pattern with a year of two digits in brackets, a quoted text with a percent sign and a reserved letter, and a day that is not
padded. -/
def bracketedPattern : List Segment :=
  [.plain '(' (by decide), .token .shortYear, .plain ')' (by decide), .quoted " 100% day " (by decide), .token .shortMonthName,
    .plain ' ' (by decide), .token .day, .plain '.' (by decide)]

/-- The leap day of 2024. -/
def leapDay : Date := ⟨2024, 2, 29, by decide, by decide, by decide⟩

/-- The leap day of 2024 in the bracketed pattern. -/
def bracketedDay : Text :=
  CodePoint.ofChar '(' :: (Text.padded 2 24 ++ CodePoint.ofChar ')' ::
    ((" 100% day " : Text) ++ (("fEB" : Text) ++ CodePoint.ofChar ' ' :: (Text.ofNat 29 ++ [CodePoint.ofChar '.']))))

/-- The leap day that is written in this pattern is read, in a payload whose locale is no text. -/
theorem dateField_leapDay :
    spelling bracketedPattern = "(yy)' 100% day 'MMM d." ∧ bracketedDay = "(24) 100% day fEB 29." ∧
      Payload.dateField {}
        [("dateFormat", .str (spelling bracketedPattern)), ("locale", .int 7), ("opened", .str bracketedDay)] "opened" =
          .ok (some leapDay) := by
  have hmonth : Text.InAnyCase (List.take 3 ("february" : Text)) "fEB" :=
    .cons (.inl rfl) (.cons (.inr (by decide)) (.cons (.inr (by decide)) .nil))
  have hstop : NoDigit [CodePoint.ofChar '.'] := (Json.begins_cons _ _ _).2 (by decide)
  have hlast : Writes leapDay [.token .day, .plain '.' (by decide)] (Text.ofNat 29 ++ [CodePoint.ofChar '.']) :=
    .token .day (fun _ => hstop) (.plain .nil)
  have hwrites : Writes leapDay bracketedPattern bracketedDay :=
    .plain (.token (.shortYear (by decide)) nofun (.plain (.quoted (.token (.shortMonthName rfl hmonth) nofun (.plain hlast)))))
  have htrimmed : bracketedDay.IsTrimmed := ⟨by decide, by decide⟩
  refine ⟨by decide, by decide, ?_⟩
  exact dateField_written {} _ _ _ bracketedPattern bracketedDay (by decide) rfl (by decide) rfl hwrites htrimmed

end Payload

end Admission
