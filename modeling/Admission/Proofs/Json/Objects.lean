import Admission.Proofs.Json.Grammar
import Mathlib.Data.List.Induction
import Mathlib.Data.List.Permutation

/-!
# The object of a list of members

`Members.ofList` puts one member after another. The object that comes of it is the one that the list denotes: a repeated name keeps
its first place and takes its last value (`membersMean_iff`).
-/

namespace Admission

namespace Members

/-- One member more is put into the object of those before it. -/
theorem ofList_concat (ms : List (Text × Value)) (m : Text × Value) : ofList (ms ++ [m]) = put (ofList ms) m.1 m.2 := by
  rw [ofList, List.foldl_append]
  rfl

/-- The names of the object of a list of members are those of the list, each where it comes first. -/
theorem names_ofList (ms : List (Text × Value)) : (ofList ms).names = (ms.map Prod.fst).eraseDups := by
  induction ms using List.reverseRecOn with
  | nil => rfl
  | append_singleton ms m ih =>
    rw [ofList_concat, names_put, ih, List.map_append, List.eraseDups_append, List.map_singleton, List.removeAll]
    by_cases h : m.1 ∈ ms.map Prod.fst
    · rw [if_pos (List.mem_eraseDups.2 h), List.filter_cons_of_neg (by simpa using h)]
      simp
    · rw [if_neg (fun hmem => h (List.mem_eraseDups.1 hmem)), List.filter_cons_of_pos (by simpa using h)]
      rfl

/-- Under a name stands the value that the list has last for it. -/
theorem lookup_ofList (ms : List (Text × Value)) (name : Text) : (ofList ms).lookup name = ms.reverse.lookup name := by
  induction ms using List.reverseRecOn with
  | nil => rfl
  | append_singleton ms m ih =>
    rw [ofList_concat, lookup_put, List.reverse_append, List.reverse_singleton, List.singleton_append, List.lookup_cons, ih]
    by_cases h : name = m.1
    · rw [if_pos h, beq_iff_eq.2 h]
    · rw [if_neg h, beq_eq_false_iff_ne.2 h]

/-- Every value of an object into which a member was put is that of the member or was there before. -/
theorem snd_eq_or_mem_of_mem_put {ms : Members} {name : Text} {v : Value} {m : Text × Value} (h : m ∈ put ms name v) :
    m.2 = v ∨ m ∈ ms := by
  induction ms with
  | nil =>
    rw [put, List.mem_singleton] at h
    exact .inl (by rw [h])
  | cons k rest ih =>
    rw [put] at h
    split at h
    · rcases List.mem_cons.1 h with rfl | h
      · exact .inl rfl
      · exact .inr (List.mem_cons_of_mem _ h)
    · rcases List.mem_cons.1 h with rfl | h
      · exact .inr (List.mem_cons_self ..)
      · exact (ih h).imp_right (List.mem_cons_of_mem _)

/-- Every value of the object of a list of members is that of one of them. -/
theorem exists_of_mem_ofList {ms : List (Text × Value)} {m : Text × Value} (h : m ∈ ofList ms) : ∃ k ∈ ms, m.2 = k.2 := by
  induction ms using List.reverseRecOn with
  | nil => cases h
  | append_singleton ms k ih =>
    rw [ofList_concat] at h
    rcases snd_eq_or_mem_of_mem_put h with heq | h
    · exact ⟨k, by simp, heq⟩
    · obtain ⟨l, hl, heq⟩ := ih h
      exact ⟨l, List.mem_append_left _ hl, heq⟩

/-- Two objects with the same names in the same order, each name once, and the same value under every name are one. -/
theorem ext_lookup {a b : Members} (hnames : a.names = b.names) (hnodup : a.names.Nodup)
    (hlookup : ∀ name, a.lookup name = b.lookup name) : a = b := by
  induction a generalizing b with
  | nil => exact (List.map_eq_nil_iff.1 hnames.symm).symm
  | cons m a ih =>
    cases b with
    | nil => cases hnames
    | cons m' b =>
      obtain ⟨name, v⟩ := m
      obtain ⟨name', v'⟩ := m'
      obtain ⟨rfl, hrest⟩ := List.cons.inj hnames
      obtain ⟨hfresh, hnodup⟩ := List.nodup_cons.1 hnodup
      have hv := hlookup name
      rw [List.lookup_cons_self, List.lookup_cons_self] at hv
      cases hv
      congr 1
      refine ih hrest hnodup ?_
      intro other
      by_cases hother : other = name
      · -- The name stands in neither rest.
        have hnone : ∀ ms : Members, name ∉ ms.names → ms.lookup name = none := by
          intro ms hms
          rw [List.lookup_eq_none_iff]
          rintro p hp
          refine bne_iff_ne.2 ?_
          rintro rfl
          exact hms (List.mem_map_of_mem hp)
        have hfresh' : name ∉ names b := by
          rw [names, ← hrest]
          exact hfresh
        rw [hother, hnone a hfresh, hnone b hfresh']
      · have hne := hlookup other
        rw [List.lookup_cons, List.lookup_cons, beq_eq_false_iff_ne.2 hother] at hne
        exact hne

end Members

namespace Json

/-- Every value of the object of members that stand between brackets is the value of one of them. -/
theorem Enclosed.exists_item {Item : Text → Value → Prop} {s : Text} {ms : List (Text × Value)} (h : Enclosed (Member Item) s ms)
    {m : Text × Value} (hm : m ∈ Members.ofList ms) : ∃ t, Item t m.2 := by
  have hvalues : ∀ k ∈ ms, ∃ t, Item t k.2 := by
    refine Enclosed.forall_mem (h.mono ?_)
    rintro _ _ ⟨-, -, -, hv⟩
    exact ⟨_, hv⟩
  obtain ⟨k, hk, heq⟩ := Members.exists_of_mem_ofList hm
  rw [heq]
  exact hvalues k hk

/-- A list of members denotes one object, that which comes of putting them one after another. -/
theorem membersMean_iff (ms : List (Text × Value)) (object : Members) : MembersMean ms object ↔ object = Members.ofList ms := by
  constructor
  · intro h
    have hnames : (Members.ofList ms).names = object.names := (Members.names_ofList ms).trans h.names.symm
    have hlookup : ∀ name, (Members.ofList ms).lookup name = object.lookup name := by
      intro name
      rw [Members.lookup_ofList, h.lookup]
    exact (Members.ext_lookup hnames (Members.nodup_names_ofList ms) hlookup).symm
  · rintro rfl
    exact ⟨Members.names_ofList ms, Members.lookup_ofList ms⟩

end Json

end Admission
