import Admission.DatePattern.Reading
import Admission.Proofs.Json.Numbers
import Admission.Proofs.TextParts

/-!
# Texts that fit at once

The elements of a pattern may fit a text in many ways, which are tried in order. A text that is written out piece by piece needs no
second try: where the first way in which each part fits is the one that was meant, the first way of each element is, and the whole
text is taken (`Spelt.firstFit`). A run of blanks in it is one element, so the blanks are taken together.
-/

namespace Admission

theorem CodePoint.admits_self (c : CodePoint) : c.admits c = true := by
  unfold admits
  split <;> simp

namespace DatePattern

open Json (Begins begins_cons begins_nil)

/-- A pattern reads a text as a date when it names no part twice, and the first way in which its elements fit the text reaches the end
and finds the parts of the date. -/
theorem read_eq_ok_iff (pattern text : Text) (d : Date) :
    read pattern text = .ok d ↔
      (parts pattern).Nodup ∧ ∃ found, firstFit (elements (pieces pattern)) text = some (found, []) ∧
        Parts.ofFound found = some ⟨d.year, d.month, d.day⟩ := by
  rw [read, ite_not]
  constructor
  · intro h
    split at h
    · next hnodup =>
      split at h
      · next found hfit =>
        refine ⟨hnodup, found, hfit, ?_⟩
        split at h
        · next date hdate =>
          cases h
          obtain ⟨ps, hparts, hdate⟩ := Option.bind_eq_some_iff.1 hdate
          obtain ⟨hyear, hmonth, hday⟩ := (Date.ofParts?_eq_some_iff _ _ _ _).1 hdate
          rw [hparts, hyear, hmonth, hday]
        · cases h
      · cases h
    · cases h
  · rintro ⟨hnodup, found, hfit, hparts⟩
    have hdate := (Date.ofParts?_eq_some_iff _ _ _ d).2 ⟨rfl, rfl, rfl⟩
    rw [if_pos hnodup, hfit]
    simp only [hparts, Option.bind_some, hdate]

/-! ## The first way of each element -/

/-- Each element fits what the ones before it leave, by the first of its ways, and nothing is left at the end. -/
inductive FitsAtOnce : List Element → List Found → Text → Prop where
  | nil : FitsAtOnce [] [] []
  | cons {e : Element} {es : List Element} {found : List Found} {s : Text} {way : List Found × Text}
      (first : (e.ways s).head? = some way) (rest : FitsAtOnce es found way.2) : FitsAtOnce (e :: es) (way.1 ++ found) s

/-- Elements that fit at once fit in this way first. -/
theorem FitsAtOnce.firstFit {es : List Element} {found : List Found} {s : Text} (h : FitsAtOnce es found s) :
    firstFit es s = some (found, []) := by
  induction h with
  | nil => rfl
  | cons first _ ih =>
    obtain ⟨more, hways⟩ := List.head?_eq_some_iff.1 first
    rw [DatePattern.firstFit, hways, List.findSome?_cons, ih]
    rfl

/-- Elements that fit a text do so by one of the ways of the first element. -/
theorem exists_way_of_firstFit {e : Element} {es : List Element} {s : Text} {r : List Found × Text}
    (h : firstFit (e :: es) s = some r) :
    ∃ way ∈ e.ways s, ∃ more, firstFit es way.2 = some more ∧ r = (way.1 ++ more.1, more.2) := by
  obtain ⟨way, hway, hrest⟩ := List.exists_of_findSome?_eq_some h
  obtain ⟨more, hmore, rfl⟩ := Option.map_eq_some_iff.1 hrest
  exact ⟨way, hway, more, hmore, rfl⟩

/-- Elements that begin with a part fit a text by one of the ways of the part. -/
theorem exists_of_firstFit_part {p : DatePart} {es : List Element} {s rest : Text} {found : List Found}
    (h : firstFit (.part p :: es) s = some (found, rest)) :
    ∃ n t more, (n, t) ∈ partWays p s ∧ firstFit es t = some (more, rest) ∧ found = (p, n) :: more := by
  obtain ⟨way, hway, ⟨more, rest'⟩, hmore, hr⟩ := exists_way_of_firstFit h
  obtain ⟨⟨n, t⟩, hpart, rfl⟩ := List.mem_map.1 hway
  cases hr
  exact ⟨n, t, more, hpart, hmore, rfl⟩

/-- Elements that begin with a code point without case fit a text behind that code point. -/
theorem eq_cons_of_firstFit_literal {p : CodePoint} (hcase : p.hasCase = false) {es : List Element} {s rest : Text}
    {found : List Found} (h : firstFit (.literal p :: es) s = some (found, rest)) :
    ∃ t, s = p :: t ∧ firstFit es t = some (found, rest) := by
  obtain ⟨way, hway, ⟨more, rest'⟩, hmore, hr⟩ := exists_way_of_firstFit h
  cases s with
  | nil => cases hway
  | cons c t =>
    rw [Element.ways] at hway
    split at hway
    · next hc =>
      rw [CodePoint.admits, if_neg (Bool.eq_false_iff.1 hcase), decide_eq_true_iff] at hc
      cases List.mem_singleton.1 hway
      cases hr
      exact ⟨t, by rw [hc], hmore⟩
    · cases hway

theorem head?_ways_part {p : DatePart} {n : Option Nat} {s t : Text} (h : (partWays p s).head? = some (n, t)) :
    ((Element.part p).ways s).head? = some ([(p, n)], t) := by
  rw [Element.ways, List.head?_map, h]
  rfl

theorem head?_ways_literal (c : CodePoint) (s : Text) : ((Element.literal c).ways (c :: s)).head? = some ([], s) := by
  rw [Element.ways, if_pos c.admits_self]
  rfl

/-- The first way of a gap takes all blanks that are there. -/
theorem head?_ways_gap {c : CodePoint} (hc : c.isBlank = true) (s : Text) :
    (Element.gap.ways (c :: s)).head? = some ([], s.dropWhile CodePoint.isBlank) := by
  have hlength : ((c :: s).takeWhile CodePoint.isBlank).length = (s.takeWhile CodePoint.isBlank).length + 1 := by
    rw [List.takeWhile_cons_of_pos hc, List.length_cons]
  have hdrop : s.drop (s.takeWhile CodePoint.isBlank).length = s.dropWhile CodePoint.isBlank := by
    conv => lhs; arg 2; rw [← List.takeWhile_append_dropWhile (p := CodePoint.isBlank) (l := s)]
    rw [List.drop_left]
  rw [Element.ways, hlength, List.range_succ, List.map_append, List.reverse_append]
  simp [hdrop]

/-- A gap that takes the blanks in front of a text takes one more in front of them as well. -/
theorem head?_ways_gap_cons {c : CodePoint} (hc : c.isBlank = true) {s : Text} {way : List Found × Text}
    (h : (Element.gap.ways s).head? = some way) : (Element.gap.ways (c :: s)).head? = some way := by
  cases s with
  | nil => cases h
  | cons b s =>
    by_cases hb : b.isBlank = true
    · rw [head?_ways_gap hc, List.dropWhile_cons_of_pos hb, ← head?_ways_gap hb, h]
    · rw [Element.ways, List.takeWhile_cons_of_neg hb] at h
      cases h

/-! ## Texts written out piece by piece -/

/-- A text written out for pieces: a code point that stands for itself is there, and a part is a text without a blank in front that is
the first way in which the part fits. -/
inductive Spelt : List Piece → List Found → Text → Prop where
  | nil : Spelt [] [] []
  | literal {c : CodePoint} {ps : List Piece} {found : List Found} {s : Text} (rest : Spelt ps found s) :
      Spelt (.literal c :: ps) found (c :: s)
  | part {p : DatePart} {n : Option Nat} {w s : Text} {ps : List Piece} {found : List Found}
      (ne_nil : w ≠ []) (notBlank : Begins (fun c => c.isBlank = false) w) (first : (partWays p (w ++ s)).head? = some (n, s))
      (rest : Spelt ps found s) : Spelt (.part p :: ps) ((p, n) :: found) (w ++ s)

/-- A text that is written out begins with a blank only when the first element is a gap. -/
theorem Spelt.begins {ps : List Piece} {found : List Found} {s : Text} (h : Spelt ps found s)
    (hgap : ∀ more, elements ps = .gap :: more → False) : Begins (fun c => c.isBlank = false) s := by
  cases h with
  | nil => exact begins_nil _
  | @literal c ps found s rest =>
    rw [begins_cons]
    refine Classical.byContradiction fun hblank => ?_
    rw [Bool.not_eq_false] at hblank
    rw [elements, if_pos hblank] at hgap
    split at hgap
    · exact hgap _ rfl
    · exact hgap _ rfl
  | @part p n w s ps found ne_nil notBlank first rest =>
    cases w with
    | nil => exact absurd rfl ne_nil
    | cons c w => exact notBlank

/-- A text that is written out fits at once. -/
theorem Spelt.fitsAtOnce {ps : List Piece} {found : List Found} {s : Text} (h : Spelt ps found s) :
    FitsAtOnce (elements ps) found s := by
  induction h with
  | nil => exact .nil
  | @literal c ps found s rest ih =>
    by_cases hc : c.isBlank = true
    · rw [elements, if_pos hc]
      split
      · next more hmore =>
        -- The gap that begins the rest takes this blank too, and leaves what it left before.
        rw [hmore] at ih
        cases ih with
        | cons first hrest => exact .cons (head?_ways_gap_cons hc first) hrest
      · next hgap =>
        have hfirst : (Element.gap.ways (c :: s)).head? = some ([], s) := by
          rw [head?_ways_gap hc, Text.dropWhile_of_head? (rest.begins hgap)]
        exact .cons hfirst ih
    · rw [elements, if_neg hc]
      exact .cons (head?_ways_literal c s) ih
  | @part p n w s ps found ne_nil notBlank first rest ih =>
    rw [elements]
    exact .cons (head?_ways_part first) ih

/-- A text that is written out is taken whole, with the parts it was written from. -/
theorem Spelt.firstFit {ps : List Piece} {found : List Found} {s : Text} (h : Spelt ps found s) :
    firstFit (elements ps) s = some (found, []) := h.fitsAtOnce.firstFit

end DatePattern

end Admission
