import Admission.Proofs.Json.RoundTrip
import Admission.Proofs.PayloadLanguage

/-!
# What stands in a payload

A payload is read from a text of JSON, so that its values are no deeper than such texts are read, and its integers no longer. They can
all be written in a message (`Payload.unwritable?_get`), and the integers that are extracted from them can as well
(`Payload.isShort_of_extract`).
-/

namespace Admission

/-! ## Values that are written -/

namespace Value

/-- A value is written as text wherever as much nesting is allowed as it has. -/
def IsWritten (v : Value) : Prop := ∀ depth, v.depth ≤ depth → v.unwritableWithin? depth = none

theorem isWritten_null : IsWritten .null := fun _ _ => by rw [unwritableWithin?]

theorem isWritten_bool (b : Bool) : IsWritten (.bool b) := fun _ _ => by rw [unwritableWithin?]

theorem isWritten_int {n : Int} (h : Text.IsShort n) : IsWritten (.int n) := fun _ _ => by rw [unwritableWithin?, if_pos h]

theorem isWritten_float (x : Binary64) : IsWritten (.float x) := fun _ _ => by rw [unwritableWithin?]

theorem isWritten_str (s : Text) : IsWritten (.str s) := fun _ _ => by rw [unwritableWithin?]

/-- A list is written when its items are. -/
theorem isWritten_list {items : List Value} (h : ∀ v ∈ items, v.IsWritten) : IsWritten (.list items) := by
  intro depth hdepth
  obtain ⟨inner, rfl⟩ := Nat.exists_eq_add_of_le' (Nat.zero_lt_of_lt hdepth)
  have hitems : itemDepth items ≤ inner := Nat.le_of_succ_le_succ hdepth
  rw [unwritableWithin?]
  clear hdepth
  induction items with
  | nil => rfl
  | cons v rest ih =>
    obtain ⟨hv, hrest⟩ := List.forall_mem_cons.1 h
    obtain ⟨hdepth, hdepths⟩ := Nat.max_le.1 hitems
    rw [unwritableItem?, hv inner hdepth, ih hrest hdepths]
    rfl

/-- An object is written when its values are. -/
theorem isWritten_dict {members : Members} (h : ∀ m ∈ members, m.2.IsWritten) : IsWritten (.dict members) := by
  intro depth hdepth
  obtain ⟨inner, rfl⟩ := Nat.exists_eq_add_of_le' (Nat.zero_lt_of_lt hdepth)
  have hmembers : memberDepth members ≤ inner := Nat.le_of_succ_le_succ hdepth
  rw [unwritableWithin?]
  clear hdepth
  induction members with
  | nil => rfl
  | cons m rest ih =>
    obtain ⟨name, v⟩ := m
    obtain ⟨hv, hrest⟩ := List.forall_mem_cons.1 h
    obtain ⟨hdepth, hdepths⟩ := Nat.max_le.1 hmembers
    rw [unwritableMember?, hv inner hdepth, ih hrest hdepths]
    rfl

end Value

/-- What a text of JSON denotes is written. -/
theorem Json.isWritten_of_denotes {s : Text} {v : Value} (h : Denotes s v) : v.IsWritten := by
  refine Denotes.induct (P := fun _ v => v.IsWritten) Value.isWritten_null Value.isWritten_bool ?number
    (fun {_ s} _ => Value.isWritten_str s) (fun h => Value.isWritten_list h.forall_mem) ?object h
  case number =>
    intro n v _ hmeans
    cases hmeans with
    | int _ hshort => exact Value.isWritten_int (isShort_of_length _ hshort)
    | float _ _ => exact Value.isWritten_float _
  case object =>
    intro s ms object h hmean
    refine Value.isWritten_dict ?_
    rw [(membersMean_iff _ _).1 hmean]
    intro m hm
    obtain ⟨-, hv⟩ := h.exists_item hm
    exact hv

/-! ## Values of a payload -/

namespace Payload

variable {text : Option Text} {payload : Payload}

/-- A value of a payload that was read is denoted by a text of JSON; one that is not there is null. -/
theorem exists_denotes_get (h : Payload.read text = .ok payload) (name : Text) :
    ∃ s, Json.Denotes s (payload.get name) := by
  obtain ⟨t, -, -, s, -, -, -, -, hdenotes⟩ := isDocument_of_read h
  by_cases hmem : name ∈ payload.names
  · exact Json.exists_denotes_of_mem hdenotes (Members.mem_of_mem_names hmem)
  · rw [Members.get_of_not_mem hmem]
    exact ⟨_, .null⟩

/-- A value of a payload that was read is less deep than values may be. -/
theorem depth_get_le (h : Payload.read text = .ok payload) (name : Text) : (payload.get name).depth ≤ nestingLimit := by
  obtain ⟨t, rfl, -⟩ := isDocument_of_read h
  have hdepth := Json.depth_le_of_read ((read_eq_ok_iff_read t payload).1 h)
  have hmembers : Value.memberDepth payload ≤ nestingLimit := (Nat.le_succ _).trans hdepth
  by_cases hmem : name ∈ payload.names
  · exact (Value.memberDepth_le_iff payload nestingLimit).1 hmembers _ (Members.mem_of_mem_names hmem)
  · rw [Members.get_of_not_mem hmem]
    exact Nat.zero_le _

theorem unwritable?_get (h : Payload.read text = .ok payload) (name : Text) : (payload.get name).unwritable? = none := by
  obtain ⟨s, hs⟩ := exists_denotes_get h name
  exact Json.isWritten_of_denotes hs _ (depth_get_le h name)

end Payload

/-! ## Integers that are extracted -/

theorem Text.isShort_of_readSigned {s : Text} {n : Int} (h : s.readSigned = .ok n) : Text.IsShort n := by
  obtain ⟨sign, digits, hs, hlength, rfl⟩ := (readSigned_eq_ok_iff s n).1 h
  refine isShort_signed _ ?_ ((List.length_filterMap_le _ _).trans hlength)
  intro d hd
  obtain ⟨c, -, hc⟩ := List.mem_filterMap.1 hd
  exact CodePoint.digit?_lt hc

/-- An integer that is the value of a binary number is short. -/
theorem Binary64.isShort_of_toInt? {x : Binary64} {n : Int} (h : x.toInt? = some n) : Text.IsShort n := by
  cases x with
  | nan => cases h
  | infinite negative => cases h
  | finite negative biased fraction =>
    have hscale := (scale_mem biased).2
    rw [toInt?] at h
    generalize hscaled : scaled (significand biased fraction) 1 (scale biased) = parts at h
    obtain ⟨num, den⟩ := parts
    have hnum : significand biased fraction * 2 ^ (scale biased).toNat = num := (Prod.mk.inj hscaled).1
    have hbound : num / den < 10 ^ ((53 + (scale biased).toNat) * 30103 / 100000 + 1) := by
      calc num / den ≤ significand biased fraction * 2 ^ (scale biased).toNat := hnum ▸ Nat.div_le_self num den
        _ < 2 ^ 53 * 2 ^ (scale biased).toNat := by
            gcongr
            exact significand_lt biased fraction
        _ = 2 ^ (53 + (scale biased).toNat) := (pow_add 2 53 _).symm
        _ ≤ 10 ^ ((53 + (scale biased).toNat) * 30103 / 100000 + 1) := two_pow_le_ten_pow _ (by omega)
    have hlength := Text.length_ofNat_le (Nat.succ_pos _) hbound
    have habs : ∀ k : Nat, (if negative then -(k : Int) else k).natAbs = k := by
      intro k
      cases negative <;> simp
    dsimp only at h
    split at h
    · obtain rfl := Option.some.inj h
      rw [Text.IsShort, habs, digitLimit]
      omega
    · cases h

/-- An integer as which a value that a text of JSON denotes is read is short. -/
theorem Payload.isShort_of_integerOf {s name : Text} {v : Value} {n : Int} (hs : Json.Denotes s v) (h : integerOf name v = .ok (some n)) :
    Text.IsShort n := by
  rw [integerOf_eq_ok_some_iff] at h
  cases v with
  | int m =>
    obtain rfl : m = n := h
    exact Json.isShort_of_denotes hs
  | float x => exact Binary64.isShort_of_toInt? h
  | str t => exact Text.isShort_of_readSigned h
  | null => cases h
  | bool b => cases h
  | date d => cases h
  | list items => cases h
  | dict members => cases h

/-- An integer as which a field of a payload is extracted is short. -/
theorem Payload.isShort_of_extract {defaults : Defaults} {text : Option Text} {payload : Payload} {kind : FieldKind} {name : Text}
    {n : Int} (hread : Payload.read text = .ok payload) (h : payload.extract defaults kind name = .ok (.int n)) : Text.IsShort n := by
  cases kind with
  | string =>
    obtain ⟨read, -, heq⟩ := (map_eq_ok_iff _ _ _).1 h
    cases read <;> cases heq
  | date =>
    obtain ⟨read, -, heq⟩ := (map_eq_ok_iff _ _ _).1 h
    cases read <;> cases heq
  | integer =>
    obtain ⟨read, hfield, heq⟩ := (map_eq_ok_iff _ _ _).1 h
    obtain ⟨-, -, hinteger⟩ := bind_eq_ok_iff.1 hfield
    obtain ⟨s, hs⟩ := exists_denotes_get hread name
    cases read with
    | none => cases heq
    | some m =>
      cases heq
      exact isShort_of_integerOf hs hinteger

/-- A value as which a field of a payload is extracted can be written in a message. -/
theorem Payload.unwritable?_of_extract {defaults : Defaults} {text : Option Text} {payload : Payload} {kind : FieldKind} {name : Text}
    {v : Value} (hread : Payload.read text = .ok payload) (h : payload.extract defaults kind name = .ok v) : v.unwritable? = none := by
  have hextracted := isExtracted_of_extract h
  cases v with
  | int n => exact if_pos (isShort_of_extract hread h)
  | null => rfl
  | str s => rfl
  | date d => rfl
  | bool _ => cases hextracted
  | float _ => cases hextracted
  | list _ => cases hextracted
  | dict _ => cases hextracted

/-- What is wrong with the structure of a payload that was read can be told. -/
theorem Gate.StructureCause.fault?_eq_none {g : Gate} {text : Option Text} {payload : Payload} {r : Rejection}
    (hread : Payload.read text = .ok payload) (h : g.StructureCause payload r) : r.fault? = none := by
  cases h with
  | unsupported _ => rfl
  | dateFormat _ _ => rw [Rejection.fault?, Payload.unwritable?_get hread, Option.map_none]
  | locale _ _ _ => rw [Rejection.fault?, Payload.unwritable?_get hread, Option.map_none]

end Admission
