import Admission.DatePattern.Fit
import Mathlib.Data.List.Forall2

/-!
# Names of months in any letter case

A name of a month in any letter case is found in front of a text whatever follows it, and gives the number of its month
(`head?_namedMonths`): its letters admit no other letters of the alphabet, no name begins another, and its lower case is the name.
-/

namespace Admission

/-- The small letters of the alphabet. -/
def smallLetters : Text := "abcdefghijklmnopqrstuvwxyz"

/-- A code point is a letter in either case. -/
def CodePoint.IsCaseOf (letter c : CodePoint) : Prop := c = letter ∨ letter.upperForm = [c]

/-- A text is a name in any letter case, which may change from letter to letter. -/
def Text.InAnyCase (name w : Text) : Prop := List.Forall₂ CodePoint.IsCaseOf name w

namespace CodePoint

/-- Either case of a small letter is a visible ASCII character with this letter as its lower case. -/
theorem IsCaseOf.lower {letter c : CodePoint} (h : letter.IsCaseOf c) (hletter : letter ∈ smallLetters) :
    c.lower = letter ∧ 0x20 < c.val ∧ c.val < 0x7F := by
  have hcases : ∀ l ∈ smallLetters, ∀ c ∈ l :: l.upperForm, c.lower = l ∧ 0x20 < c.val ∧ c.val < 0x7F := by decide +kernel
  refine hcases letter hletter c ?_
  rcases h with rfl | h
  · exact List.mem_cons_self
  · rw [h]
    exact List.mem_cons_of_mem _ (List.mem_singleton.2 rfl)

/-- A small letter admits either case of itself, and no case of another small letter. -/
theorem admits_iff_of_isCaseOf {p letter c : CodePoint} (hp : p ∈ smallLetters) (hletter : letter ∈ smallLetters)
    (h : letter.IsCaseOf c) : p.admits c = true ↔ p = letter := by
  -- What matches a small letter without being one of its cases is no ASCII character.
  have hsmall : ∀ l ∈ smallLetters, (l.hasCase = true ∧ l.lower = l ∧ l.val < 0x80) ∧
      ∀ v ∈ (caseFellows.lookup l.lower.val).getD [], 0x80 ≤ v := by decide +kernel
  obtain ⟨⟨hcase, hlower, -⟩, hfellows⟩ := hsmall p hp
  obtain ⟨⟨-, -, hlow⟩, -⟩ := hsmall letter hletter
  have hfellow : ((caseFellows.lookup p.lower.val).getD []).contains letter.val = false := by
    rw [Bool.eq_false_iff, ne_eq, List.contains_iff_mem]
    intro hmem
    have := hfellows _ hmem
    omega
  rw [admits, if_pos hcase, (h.lower hletter).1, hfellow, hlower, Bool.or_false, decide_eq_true_eq]
  exact eq_comm

end CodePoint

namespace Text

variable {name w : Text}

/-- The lower case of a name in any letter case is the name. -/
theorem InAnyCase.lower (h : name.InAnyCase w) (hname : name ⊆ smallLetters) : w.lower = name := by
  suffices hafter : ∀ before, lowerAfter before w = name from hafter []
  induction h with
  | nil => exact fun _ => rfl
  | @cons letter c name w hc _ ih =>
    obtain ⟨hletter, hrest⟩ := List.cons_subset.1 hname
    obtain ⟨hlower, -, hascii⟩ := hc.lower hletter
    have hsigma : c ≠ CodePoint.capitalSigma := fun e => absurd (e ▸ hascii) (by decide)
    have hdotted : c ≠ CodePoint.dottedCapitalI := fun e => absurd (e ▸ hascii) (by decide)
    intro before
    rw [lowerAfter, if_neg hsigma, if_neg hdotted, hlower, ih hrest]
    rfl

/-- A name in any letter case is not empty and consists of visible ASCII characters. -/
theorem InAnyCase.visible (h : name.InAnyCase w) (hname : name ⊆ smallLetters) (hne : name ≠ []) :
    w ≠ [] ∧ ∀ c ∈ w, 0x20 < c.val ∧ c.val < 0x7F := by
  constructor
  · rintro rfl
    exact hne (List.forall₂_nil_right_iff.1 h)
  · clear hne
    induction h with
    | nil => exact nofun
    | @cons letter c name w hc _ ih =>
      obtain ⟨hletter, hrest⟩ := List.cons_subset.1 hname
      exact List.forall_mem_cons.2 ⟨(hc.lower hletter).2, ih hrest⟩

end Text

namespace DatePattern

variable {name w : Text}

/-- A name in any letter case is dropped from in front of a text. -/
theorem dropName?_append (h : name.InAnyCase w) (hname : name ⊆ smallLetters) (s : Text) :
    dropName? name (w ++ s) = some (w, s) := by
  induction h with
  | nil => rfl
  | @cons letter c name w hc _ ih =>
    obtain ⟨hletter, hrest⟩ := List.cons_subset.1 hname
    rw [List.cons_append, dropName?, if_pos ((CodePoint.admits_iff_of_isCaseOf hletter hletter hc).2 rfl), ih hrest]
    rfl

/-- Of two names of which one is dropped from in front of a text that the other begins in any letter case, one begins the other. -/
theorem prefix_or_prefix_of_dropName? (h : name.InAnyCase w) (hname : name ⊆ smallLetters) {q s : Text}
    (hq : q ⊆ smallLetters) {r : Text × Text} (hdrop : dropName? q (w ++ s) = some r) : q <+: name ∨ name <+: q := by
  induction h generalizing q r with
  | nil => exact .inr (List.nil_prefix)
  | @cons letter c name w hc _ ih =>
    cases q with
    | nil => exact .inl (List.nil_prefix)
    | cons p q =>
      obtain ⟨hletter, hrest⟩ := List.cons_subset.1 hname
      obtain ⟨hp, hq⟩ := List.cons_subset.1 hq
      rw [List.cons_append, dropName?, Option.ite_none_right_eq_some] at hdrop
      obtain ⟨hadmits, hmore⟩ := hdrop
      obtain ⟨more, hmore, -⟩ := Option.map_eq_some_iff.1 hmore
      obtain rfl := (CodePoint.admits_iff_of_isCaseOf hp hletter hc).1 hadmits
      rw [List.cons_prefix_cons, List.cons_prefix_cons]
      simpa using ih hrest hq hmore

/-- Names of small letters of which none begins another. -/
structure IsDistinct (names : List Text) : Prop where
  ne_nil : ∀ name ∈ names, name ≠ []
  small : ∀ name ∈ names, name ⊆ smallLetters
  eq_of_prefix : ∀ p ∈ names, ∀ q ∈ names, p <+: q → p = q
  nodup : names.Nodup

/-- A search finds what one item gives when no other item gives anything. -/
theorem findSome?_of_unique {α β : Type} {f : α → Option β} {l : List α} {a : α} {b : β} (ha : a ∈ l) (hb : f a = some b)
    (h : ∀ x ∈ l, ∀ c, f x = some c → x = a) : l.findSome? f = some b := by
  have hfound : (l.findSome? f).isSome := by
    rw [List.findSome?_isSome_iff]
    exact ⟨a, ha, by rw [hb]; rfl⟩
  obtain ⟨c, hc⟩ := Option.isSome_iff_exists.1 hfound
  obtain ⟨x, hx, hfx⟩ := List.exists_of_findSome?_eq_some hc
  rw [hc, ← hfx, h x hx c hfx, hb]

/-- The name of a month in any letter case is the first name that is found, whatever follows it, and gives the number of the month. -/
theorem head?_namedMonths {names : List Text} (hnames : IsDistinct names) {i : Nat} (hi : names[i]? = some name)
    (h : name.InAnyCase w) (s : Text) : (namedMonths names (w ++ s)).head? = some (some (i + 1), s) := by
  have hmem : name ∈ names := List.mem_of_getElem? hi
  have hsmall := hnames.small name hmem
  have hplace : (name, i) ∈ names.zipIdx := List.mem_zipIdx_iff_getElem?.2 hi
  rw [namedMonths, List.head?_filterMap]
  refine findSome?_of_unique hplace ?_ ?_
  · simp only [dropName?_append h hsmall, Option.map_some, h.lower hsmall, if_true]
  · rintro ⟨q, j⟩ hqmem r hr
    have hj : names[j]? = some q := List.mem_zipIdx_iff_getElem?.1 hqmem
    have hqnames : q ∈ names := List.mem_of_getElem? hj
    obtain ⟨dropped, hdropped, -⟩ := Option.map_eq_some_iff.1 hr
    obtain rfl : q = name := by
      rcases prefix_or_prefix_of_dropName? h hsmall (hnames.small q hqnames) hdropped with hprefix | hprefix
      · exact hnames.eq_of_prefix q hqnames name hmem hprefix
      · exact (hnames.eq_of_prefix name hmem q hqnames hprefix).symm
    obtain ⟨hlt, -⟩ := List.getElem?_eq_some_iff.1 hj
    rw [(List.getElem?_inj hlt hnames.nodup).1 (hj.trans hi.symm)]

/-- No name of a month begins another, in full or shortened. -/
theorem isDistinct_monthNames : IsDistinct monthNames ∧ IsDistinct (monthNames.map (·.take 3)) := by
  refine ⟨⟨?_, ?_, ?_, ?_⟩, ⟨?_, ?_, ?_, ?_⟩⟩ <;> decide

end DatePattern

end Admission
