import Admission.Json.Writer
import Admission.Proofs.Json.Objects
import Admission.Proofs.NumberText
import Admission.Proofs.Traversal
import Admission.Proofs.WellFormed

/-!
# What is written of a value

A list and an object are written when everything in them is, as the list and the object of what that is written as
(`exists_writes_list`, `exists_writes_dict`), where as much nesting is allowed as the value has (`Writes`). A value that a text of JSON
denotes has a form in a response, because dates, numbers that are not finite and long integers do not come from such a text; a surrogate
stands in that form exactly when one stands in a text of the value, at whatever level (`writable_of_denotes`).
-/

namespace Admission

namespace Value

mutual

/-- The texts of a value, at every level; the names of members are among them. -/
def texts : Value → List Text
  | .str s => [s]
  | .list items => itemTexts items
  | .dict members => memberTexts members
  | .null | .bool _ | .int _ | .float _ | .date _ => []

/-- The texts of items. -/
def itemTexts : List Value → List Text
  | [] => []
  | v :: rest => texts v ++ itemTexts rest

/-- The texts of members: their names, and those of their values. -/
def memberTexts : List (Text × Value) → List Text
  | [] => []
  | (name, v) :: rest => name :: (texts v ++ memberTexts rest)

end

mutual

/-- How many lists and objects stand in one another in a value. -/
def depth : Value → Nat
  | .list items => itemDepth items + 1
  | .dict members => memberDepth members + 1
  | .null | .bool _ | .int _ | .float _ | .str _ | .date _ => 0

/-- The greatest depth of items. -/
def itemDepth : List Value → Nat
  | [] => 0
  | v :: rest => max (depth v) (itemDepth rest)

/-- The greatest depth of the values of members. -/
def memberDepth : List (Text × Value) → Nat
  | [] => 0
  | (_, v) :: rest => max (depth v) (memberDepth rest)

end

theorem itemDepth_le_iff (items : List Value) (k : Nat) : itemDepth items ≤ k ↔ ∀ v ∈ items, v.depth ≤ k := by
  induction items with
  | nil => simp [itemDepth]
  | cons v rest ih => simp [itemDepth, ih]

theorem memberDepth_le_iff (members : Members) (k : Nat) : memberDepth members ≤ k ↔ ∀ m ∈ members, m.2.depth ≤ k := by
  induction members with
  | nil => simp [memberDepth]
  | cons m rest ih => simp [memberDepth, ih]

end Value

namespace Json

/-! ## Lists and objects -/

/-- A text is what is written of a value, wherever as much nesting is allowed as the value has. -/
def Writes (layout : Layout) (text : Text) (v : Value) : Prop := ∀ depth, v.depth ≤ depth → writeWithin layout depth v = .ok text

section Layouts

variable {layout : Layout} {P : Text → Value → Prop}

theorem Writes.write_eq {text : Text} {v : Value} (h : Writes layout text v) (hdepth : v.depth ≤ nestingLimit) :
    write layout v = .ok text := h nestingLimit hdepth

/-- A list of values that are written is written as the list of what they are written as. -/
theorem exists_writes_list {items : List Value} (h : ∀ v ∈ items, ∃ text, Writes layout text v ∧ P text v) :
    ∃ parts, Writes layout (layout.list parts) (.list items) ∧ List.Forall₂ P parts items := by
  suffices hitems : ∃ parts, (∀ depth, Value.itemDepth items ≤ depth → writeItems layout depth items = .ok parts) ∧
      List.Forall₂ P parts items by
    obtain ⟨parts, hparts, hall⟩ := hitems
    refine ⟨parts, fun depth hdepth => ?_, hall⟩
    obtain ⟨inner, rfl⟩ := Nat.exists_eq_add_of_le' (Nat.zero_lt_of_lt hdepth)
    rw [writeWithin, hparts inner (Nat.le_of_succ_le_succ hdepth)]
    rfl
  induction items with
  | nil => exact ⟨[], fun _ _ => rfl, .nil⟩
  | cons v rest ih =>
    obtain ⟨⟨part, hpart, hP⟩, hrest⟩ := List.forall_mem_cons.1 h
    obtain ⟨parts, hparts, hall⟩ := ih hrest
    refine ⟨part :: parts, fun depth hdepth => ?_, .cons hP hall⟩
    obtain ⟨hv, hitems⟩ := Nat.max_le.1 hdepth
    rw [writeItems, hpart depth hv, hparts depth hitems]
    rfl

/-- Members with values that are written are written as the object of what these are written as. -/
theorem exists_writes_dict {members : Members} (h : ∀ m ∈ members, ∃ text, Writes layout text m.2 ∧ P text m.2) :
    ∃ parts, Writes layout (layout.object parts) (.dict members) ∧
      List.Forall₂ (fun part m => part.1 = m.1 ∧ P part.2 m.2) parts members := by
  suffices hmembers : ∃ parts, (∀ depth, Value.memberDepth members ≤ depth → writeMembers layout depth members = .ok parts) ∧
      List.Forall₂ (fun part m => part.1 = m.1 ∧ P part.2 m.2) parts members by
    obtain ⟨parts, hparts, hall⟩ := hmembers
    refine ⟨parts, fun depth hdepth => ?_, hall⟩
    obtain ⟨inner, rfl⟩ := Nat.exists_eq_add_of_le' (Nat.zero_lt_of_lt hdepth)
    rw [writeWithin, hparts inner (Nat.le_of_succ_le_succ hdepth)]
    rfl
  induction members with
  | nil => exact ⟨[], fun _ _ => rfl, .nil⟩
  | cons m rest ih =>
    obtain ⟨name, v⟩ := m
    obtain ⟨⟨part, hpart, hP⟩, hrest⟩ := List.forall_mem_cons.1 h
    obtain ⟨parts, hparts, hall⟩ := ih hrest
    refine ⟨(name, part) :: parts, fun depth hdepth => ?_, .cons ⟨rfl, hP⟩ hall⟩
    obtain ⟨hv, hmembers⟩ := Nat.max_le.1 hdepth
    rw [writeMembers, hpart depth hv, hparts depth hmembers]
    rfl

end Layouts

/-! ## Depth -/

section Depth

variable {layout : Layout}

mutual

/-- What is written is no deeper than what is allowed. -/
theorem depth_le_of_writeWithin : ∀ {depth : Nat} (v : Value) {text : Text}, writeWithin layout depth v = .ok text → v.depth ≤ depth
  | _, .null, _, _ | _, .bool _, _, _ | _, .int _, _, _ | _, .float _, _, _ | _, .str _, _, _ | _, .date _, _, _ => Nat.zero_le _
  | 0, .list items, _, h => by
    rw [writeWithin] at h
    cases h
  | depth + 1, .list items, _, h => by
    rw [writeWithin] at h
    obtain ⟨parts, hparts, -⟩ := bind_eq_ok_iff.1 h
    exact Nat.succ_le_succ (itemDepth_le_of_writeItems items hparts)
  | 0, .dict members, _, h => by
    rw [writeWithin] at h
    cases h
  | depth + 1, .dict members, _, h => by
    rw [writeWithin] at h
    obtain ⟨parts, hparts, -⟩ := bind_eq_ok_iff.1 h
    exact Nat.succ_le_succ (memberDepth_le_of_writeMembers members hparts)

theorem itemDepth_le_of_writeItems : ∀ {depth : Nat} (items : List Value) {parts : List Text},
    writeItems layout depth items = .ok parts → Value.itemDepth items ≤ depth
  | _, [], _, _ => Nat.zero_le _
  | depth, v :: rest, _, h => by
    rw [writeItems] at h
    obtain ⟨part, hpart, h⟩ := bind_eq_ok_iff.1 h
    obtain ⟨parts, hrest, -⟩ := bind_eq_ok_iff.1 h
    exact Nat.max_le.2 ⟨depth_le_of_writeWithin v hpart, itemDepth_le_of_writeItems rest hrest⟩

theorem memberDepth_le_of_writeMembers : ∀ {depth : Nat} (members : List (Text × Value)) {parts : List (Text × Text)},
    writeMembers layout depth members = .ok parts → Value.memberDepth members ≤ depth
  | _, [], _, _ => Nat.zero_le _
  | depth, (name, v) :: rest, _, h => by
    rw [writeMembers] at h
    obtain ⟨part, hpart, h⟩ := bind_eq_ok_iff.1 h
    obtain ⟨parts, hrest, -⟩ := bind_eq_ok_iff.1 h
    exact Nat.max_le.2 ⟨depth_le_of_writeWithin v hpart, memberDepth_le_of_writeMembers rest hrest⟩

end

/-- Nothing else is written of a value than what is written of it wherever its nesting is allowed. -/
theorem Writes.eq_of_write {text other : Text} {v : Value} (h : Writes layout text v) (hwrite : write layout v = .ok other) :
    other = text := by
  rw [h.write_eq (depth_le_of_writeWithin v hwrite)] at hwrite
  exact (Except.ok.inj hwrite).symm

end Depth

/-! ## Surrogates -/

/-- A code point is written in a well-formed way unless it is a surrogate. -/
theorem isWellFormed_escape (c : CodePoint) : (escape c).isWellFormed = !c.isSurrogate := by
  have hslash : (CodePoint.ofChar '\\').isSurrogate = false := Text.isSurrogate_ofChar '\\'
  unfold escape
  split_ifs with hself hb hf hn hr ht hcontrol
  · simp [Text.isWellFormed, hslash]
  · subst hb
    decide
  · subst hf
    decide
  · subst hn
    decide
  · subst hr
    decide
  · subst ht
    decide
  · have hplain : c.isSurrogate = false := by
      rw [CodePoint.isSurrogate, decide_eq_false_iff_not]
      omega
    rw [Text.isWellFormed_append, Text.isWellFormed_ofString, Text.isWellFormed_hex, hplain]
    rfl
  · simp [Text.isWellFormed]

/-- A string is written in a well-formed way exactly when its text is well formed. -/
theorem isWellFormed_writeString (s : Text) : (writeString s).isWellFormed = s.isWellFormed := by
  have hquote : (CodePoint.ofChar '"').isSurrogate = false := Text.isSurrogate_ofChar '"'
  have hinside : Text.isWellFormed (s.flatMap escape) = s.isWellFormed := by
    have hescape : (fun c => (escape c).all fun d => !d.isSurrogate) = fun c => !c.isSurrogate := funext isWellFormed_escape
    rw [Text.isWellFormed, List.all_flatMap, hescape]
    rfl
  rw [writeString, Text.isWellFormed_cons, Text.isWellFormed_append, Text.isWellFormed_cons, hquote, hinside]
  simp [Text.isWellFormed]

/-- A value is writable: it has a form in a response, and that is well formed exactly when the texts of the value are. -/
def Writable (v : Value) : Prop :=
  ∃ text, Writes .compact text v ∧ text.isWellFormed = v.texts.all Text.isWellFormed

theorem writable_null : Writable .null := ⟨"null", fun _ _ => by rw [writeWithin], by decide⟩

theorem writable_bool (b : Bool) : Writable (.bool b) := by
  refine ⟨_, fun _ _ => by rw [writeWithin], ?_⟩
  cases b <;> decide

theorem writable_int {n : Int} (h : Text.IsShort n) : Writable (.int n) :=
  ⟨Text.ofInt n, fun _ _ => by rw [writeWithin, if_pos h], Text.isWellFormed_ofInt n⟩

theorem writable_float {x : Binary64} (h : x.isFinite = true) : Writable (.float x) :=
  ⟨x.text, fun _ _ => by simp only [writeWithin]; exact if_pos h, x.isWellFormed_text⟩

theorem writable_str (s : Text) : Writable (.str s) := by
  refine ⟨writeString s, fun _ _ => by rw [writeWithin], ?_⟩
  rw [isWellFormed_writeString, Value.texts, List.all_cons, List.all_nil, Bool.and_true]

/-- A list of writable items is writable. -/
theorem writable_list {items : List Value} (h : ∀ v ∈ items, Writable v) : Writable (.list items) := by
  obtain ⟨parts, hparts, hall⟩ := exists_writes_list h
  have hwells : parts.all Text.isWellFormed = (Value.itemTexts items).all Text.isWellFormed := by
    clear h hparts
    induction hall with
    | nil => rfl
    | cons hpart _ ih => rw [List.all_cons, Value.itemTexts, List.all_append, hpart, ih]
  refine ⟨Layout.compact.list parts, hparts, ?_⟩
  rw [Layout.list, Text.isWellFormed_append, Text.isWellFormed_append, Text.isWellFormed_join (by decide), hwells,
    Text.isWellFormed_ofString, Text.isWellFormed_ofString, Bool.true_and, Bool.and_true, Value.texts]

/-- An object whose values are writable is writable. -/
theorem writable_dict {members : Members} (h : ∀ m ∈ members, Writable m.2) : Writable (.dict members) := by
  obtain ⟨parts, hparts, hall⟩ := exists_writes_dict (P := fun text v => text.isWellFormed = v.texts.all Text.isWellFormed) h
  have hwells : (parts.map Layout.compact.member).all Text.isWellFormed = (Value.memberTexts members).all Text.isWellFormed := by
    clear h hparts
    have hseparator : Layout.compact.nameSeparator.isWellFormed = true := by decide
    induction hall with
    | nil => rfl
    | @cons part m parts members hpart _ ih =>
      obtain ⟨name, v⟩ := m
      rw [List.map_cons, List.all_cons, ih, Layout.member, Text.isWellFormed_append, Text.isWellFormed_append,
        isWellFormed_writeString, hseparator, hpart.1, hpart.2, Value.memberTexts, List.all_cons, List.all_append]
      simp only [Bool.true_and, Bool.and_assoc]
  refine ⟨Layout.compact.object parts, hparts, ?_⟩
  rw [Layout.object, Text.isWellFormed_append, Text.isWellFormed_append, Text.isWellFormed_join (by decide), hwells,
    Text.isWellFormed_ofString, Text.isWellFormed_ofString, Bool.true_and, Bool.and_true, Value.texts]

/-- An integer that a number denotes is short. -/
theorem isShort_of_length {whole : Text} (negative : Bool) (h : whole.length ≤ digitLimit) :
    Text.IsShort (signed negative (Numeral.digitsValue whole)) := by
  refine Text.isShort_signed negative ?_ ((List.length_filterMap_le _ _).trans h)
  intro d hd
  obtain ⟨c, -, hc⟩ := List.mem_filterMap.1 hd
  rw [CodePoint.asciiDigit?, Option.ite_none_right_eq_some] at hc
  cases hc.2
  omega

theorem isShort_of_denotes {s : Text} {n : Int} (h : Denotes s (.int n)) : Text.IsShort n := by
  cases h with
  | number _ hmeans =>
    cases hmeans with
    | int _ hshort => exact isShort_of_length _ hshort

/-- Every value of an object that a text of JSON denotes is denoted by a text itself. -/
theorem exists_denotes_of_mem {s : Text} {members : Members} (h : Denotes s (.dict members)) {m : Text × Value} (hm : m ∈ members) :
    ∃ t, Denotes t m.2 := by
  cases h with
  | number _ hmeans => cases hmeans
  | @object s ms _ h hmean =>
    rw [(membersMean_iff _ _).1 hmean] at hm
    exact h.exists_item hm

/-- A value that a text of JSON denotes is writable. -/
theorem writable_of_denotes {s : Text} {v : Value} (h : Denotes s v) : Writable v := by
  refine Denotes.induct (P := fun _ v => Writable v) writable_null writable_bool ?number (fun {_ s} _ => writable_str s)
    (fun h => writable_list h.forall_mem) ?object h
  case number =>
    intro n v _ hmeans
    cases hmeans with
    | int _ hshort => exact writable_int (isShort_of_length _ hshort)
    | float _ hfinite => exact writable_float hfinite
  case object =>
    intro s ms object h hmean
    refine writable_dict ?_
    rw [(membersMean_iff _ _).1 hmean]
    intro m hm
    obtain ⟨-, hv⟩ := h.exists_item hm
    exact hv

end Json

end Admission
