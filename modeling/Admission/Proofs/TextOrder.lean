import Admission.Text.CodePoint

/-!
# The order of texts

Texts are ordered by their code points: the first ones in which two texts differ decide, and a text stands before its own
continuations. `Text.sorted` brings texts into this order. Texts that are all different stand in it strictly
(`pairwise_before_sorted`), and a list in strict order is known by its members (`eq_of_pairwise_before`), so what is told of a set of
names does not depend on the order in which they were found.
-/

namespace Admission.Text

/-- A text stands before another one in the order of code points. -/
def Before : Text → Text → Prop := List.Lex fun c d => c.val < d.val

/-! ## A strict order -/

theorem not_before_self (s : Text) : ¬ s.Before s := List.lex_irrefl (fun c => Nat.lt_irrefl c.val) s

theorem Before.trans {s t u : Text} (h : s.Before t) (h' : t.Before u) : s.Before u := List.lex_trans Nat.lt_trans h h'

theorem eq_of_not_before {s t : Text} (h : ¬ s.Before t) (h' : ¬ t.Before s) : s = t := by
  refine List.lex_trichotomous ?_ h' h
  rintro ⟨c, hc⟩ ⟨d, hd⟩ hcd hdc
  obtain rfl : c = d := Nat.le_antisymm (Nat.not_lt.1 hdc) (Nat.not_lt.1 hcd)
  rfl

/-- A text precedes another one when both are the same or it stands before it. -/
theorem precedes_iff (s t : Text) : s.precedes t = true ↔ s = t ∨ s.Before t := by
  induction s generalizing t with
  | nil =>
    cases t with
    | nil => simp [precedes]
    | cons d t => exact iff_of_true rfl (.inr .nil)
  | cons c s ih =>
    cases t with
    | nil =>
      refine iff_of_false Bool.false_ne_true ?_
      rintro (h | h)
      · cases h
      · cases h
    | cons d t =>
      unfold Before at ih ⊢
      rw [precedes, List.cons_lex_cons_iff]
      by_cases h : c = d
      · subst h
        simp [ih]
      · simp [h]

/-- What precedes a text precedes all that this text precedes. -/
theorem precedes_trans (s t u : Text) (h : s.precedes t = true) (h' : t.precedes u = true) : s.precedes u = true := by
  rw [precedes_iff] at h h' ⊢
  rcases h with rfl | h
  · exact h'
  · rcases h' with rfl | h'
    · exact .inr h
    · exact .inr (h.trans h')

/-- Of two texts one precedes the other. -/
theorem precedes_total (s t : Text) : (s.precedes t || t.precedes s) = true := by
  rw [Bool.or_eq_true, precedes_iff, precedes_iff]
  by_cases h : s.Before t
  · exact .inl (.inr h)
  · by_cases h' : t.Before s
    · exact .inr (.inr h')
    · exact .inl (.inl (eq_of_not_before h h'))

/-! ## Sorted texts -/

/-- Texts that are all different stand in strict order when they are sorted. -/
theorem pairwise_before_sorted {texts : List Text} (h : texts.Nodup) : (sorted texts).Pairwise Before := by
  have hsorted : (sorted texts).Pairwise fun s t => s.precedes t = true :=
    List.pairwise_mergeSort precedes_trans precedes_total texts
  have hnodup : (sorted texts).Nodup := (List.mergeSort_perm texts precedes).nodup_iff.2 h
  refine (hsorted.and hnodup).imp ?_
  rintro s t ⟨hprecedes, hne⟩
  exact ((precedes_iff s t).1 hprecedes).resolve_left hne

/-- Texts in strict order are sorted already. -/
theorem sorted_of_pairwise_before {texts : List Text} (h : texts.Pairwise Before) : sorted texts = texts := by
  refine List.mergeSort_of_pairwise (h.imp ?_)
  intro s t hbefore
  exact (precedes_iff s t).2 (.inr hbefore)

/-- Two lists in strict order that have the same members are one. -/
theorem eq_of_pairwise_before {texts others : List Text} (h : texts.Pairwise Before) (h' : others.Pairwise Before)
    (hmem : ∀ s, s ∈ texts ↔ s ∈ others) : texts = others := by
  have hdifferent : ∀ {ts : List Text}, ts.Pairwise Before → ts.Nodup := by
    intro ts hts
    refine hts.imp ?_
    rintro s t hbefore rfl
    exact not_before_self s hbefore
  have hperm : texts.Perm others := (List.perm_ext_iff_of_nodup (hdifferent h) (hdifferent h')).2 hmem
  refine List.Perm.eq_of_pairwise ?_ h h' hperm
  intro s t _ _ hst hts
  exact absurd (hst.trans hts) (not_before_self s)

end Admission.Text
