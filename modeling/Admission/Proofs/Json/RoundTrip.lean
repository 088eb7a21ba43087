import Admission.Proofs.Json.Decimals
import Admission.Proofs.Json.Reading
import Admission.Proofs.Json.Writing
import Admission.Proofs.NumberText

/-!
# What is written is read back

A text that is written of a value denotes the value, and it opens as many brackets at once as the value has levels (`Survives`). That
holds of whatever a text of JSON denotes, and of what is put together of such values, in every layout that separates items by a comma
and names by a colon. A date does not survive, because it has no form in JSON, nor does an integer of more digits than are read.
-/

namespace Admission

namespace Members

/-- A member of a new name is put behind the others. -/
theorem put_of_not_mem {ms : Members} {name : Text} (h : name ∉ ms.names) (v : Value) : put ms name v = ms ++ [(name, v)] := by
  induction ms with
  | nil => rfl
  | cons m rest ih =>
    obtain ⟨k, w⟩ := m
    simp only [names, List.map_cons, List.mem_cons, not_or] at h
    rw [put, if_neg (Ne.symm h.1), ih h.2, List.cons_append]

/-- Members of which no two have one name are the object that they denote. -/
theorem ofList_of_nodup {ms : Members} (h : ms.names.Nodup) : ofList ms = ms := by
  induction ms using List.reverseRecOn with
  | nil => rfl
  | append_singleton ms m ih =>
    rw [names, List.map_append, List.nodup_append] at h
    have hfresh : m.1 ∉ names ms := fun hm => h.2.2 _ hm _ (List.mem_singleton_self _) rfl
    rw [ofList_concat, ih h.1, put_of_not_mem hfresh]

end Members

namespace Json

/-- A layout that a reader understands: white space may follow the comma between items and the colon behind a name. -/
structure Layout.IsReadable (layout : Layout) : Prop where
  item : ∃ blanks, layout.itemSeparator = CodePoint.ofChar ',' :: blanks ∧ IsSpace blanks
  name : ∃ blanks, layout.nameSeparator = CodePoint.ofChar ':' :: blanks ∧ IsSpace blanks

/-- The layout of responses is understood. -/
theorem isReadable_compact : Layout.compact.IsReadable :=
  ⟨⟨[], rfl, by simp [IsSpace]⟩, ⟨[], rfl, by simp [IsSpace]⟩⟩

/-- A text tells a value: it denotes the value, and its brackets stand in one another as deep as those of the value. -/
structure Tells (text : Text) (v : Value) : Prop where
  denotes : Denotes text v
  balanced : Balanced v.depth text

/-- A value survives a layout: it is written where its nesting is allowed, and what is written tells it. -/
def Survives (layout : Layout) (v : Value) : Prop := ∃ text, Writes layout text v ∧ Tells text v

/-! ## Strings -/

/-- A control character is escaped by its number. -/
theorem spellsUnit_hex {c : CodePoint} (h : c.val ≤ 0x1F) : ∃ x y z w, Text.hex 4 c.val = [x, y, z, w] ∧ SpellsUnit x y z w c := by
  have hdigit : ∀ n, n < 16 → IsHexDigit (Text.hexDigit n) n := by
    intro n hn
    rw [← hexDigit?_eq_some_iff]
    revert n
    decide
  refine ⟨_, _, _, _, rfl, _, _, _, _, hdigit _ (Nat.mod_lt _ ?_), hdigit _ (Nat.mod_lt _ ?_), hdigit _ (Nat.mod_lt _ ?_),
    hdigit _ (Nat.mod_lt _ ?_), ?_⟩
  all_goals omega

/-- A code point that is written in a string is read back. -/
theorem quotes_escape_append (c : CodePoint) {raw s : Text} (h : Quotes raw s) : Quotes (escape c ++ raw) (c :: s) := by
  have hletter : ∀ {e d : CodePoint}, (e, d) ∈ letterEscapes → Quotes ([CodePoint.ofChar '\\', e] ++ raw) (d :: s) :=
    fun he => .letter he h
  unfold escape
  split_ifs with hself hb hf hn hr ht hcontrol
  · rcases hself with rfl | rfl <;> exact hletter (by simp [letterEscapes])
  · rw [hb]
    exact hletter (e := 'b') (by simp [letterEscapes])
  · rw [hf]
    exact hletter (e := 'f') (by simp [letterEscapes])
  · rw [hn]
    exact hletter (e := 'n') (by simp [letterEscapes])
  · rw [hr]
    exact hletter (e := 'r') (by simp [letterEscapes])
  · rw [ht]
    exact hletter (e := 't') (by simp [letterEscapes])
  · obtain ⟨x, y, z, w, hhex, hspells⟩ := spellsUnit_hex hcontrol
    rw [hhex]
    refine .lone hspells ?_ h
    intro hhigh
    have hrange : 0xD800 ≤ c.val := (of_decide_eq_true hhigh.1).1
    omega
  · rw [not_or] at hself
    exact .plain hself.1 hself.2 (by omega) h

/-- A text that is written as a string is read back. -/
theorem quotes_flatMap_escape (s : Text) : Quotes (s.flatMap escape) s := by
  induction s with
  | nil => exact .nil
  | cons c s ih => exact quotes_escape_append c ih

theorem tells_writeString (s : Text) : Tells (writeString s) (.str s) :=
  ⟨.string (quotes_flatMap_escape s), (quotes_flatMap_escape s).balanced⟩

/-! ## Numbers and words -/

theorem tells_number {n : Numeral} {v : Value} (hwritten : n.IsWritten) (hmeans : n.Means v) : Tells n.token v := by
  refine ⟨.number hwritten hmeans, ?_⟩
  cases hmeans with
  | int _ _ => exact balanced_of_isNeutral hwritten.isNeutral
  | float _ _ => exact balanced_of_isNeutral hwritten.isNeutral

theorem isWhole_ofNat (n : Nat) : IsWhole (Text.ofNat n) := by
  rcases Nat.eq_zero_or_pos n with rfl | h
  · exact .inl rfl
  · exact .inr ⟨Text.isDigits_ofNat n, Text.head?_ofNat h⟩

/-- An integer is a written number, without a fraction and an exponent, of its digits. -/
theorem exists_numeral_ofInt (n : Int) : ∃ numeral : Numeral, numeral.IsWritten ∧ numeral.IsInteger ∧ numeral.token = Text.ofInt n ∧
    numeral.whole = Text.ofNat n.natAbs ∧ signed numeral.negative (Numeral.digitsValue numeral.whole) = n := by
  refine ⟨⟨decide (n < 0), Text.ofNat n.natAbs, [], []⟩, ⟨isWhole_ofNat _, .inl rfl, .inl rfl⟩, ⟨rfl, rfl⟩, ?_, rfl, ?_⟩
  · unfold Numeral.token Text.ofInt
    by_cases hn : n < 0 <;> simp [hn, Text.ofString]
  · rw [Numeral.digitsValue_ofNat, signed]
    split_ifs with hn <;> simp only [decide_eq_true_eq] at hn <;> omega

/-- A short integer tells itself. -/
theorem tells_ofInt {n : Int} (h : Text.IsShort n) : Tells (Text.ofInt n) (.int n) := by
  obtain ⟨numeral, hwritten, hinteger, htoken, hwhole, hvalue⟩ := exists_numeral_ofInt n
  have hmeans : numeral.Means (.int (signed numeral.negative (Numeral.digitsValue numeral.whole))) := by
    refine .int hinteger ?_
    rw [hwhole]
    exact h
  rw [hvalue] at hmeans
  rw [← htoken]
  exact tells_number hwritten hmeans

section Layouts

variable {layout : Layout}

theorem survives_null : Survives layout .null := by
  refine ⟨"null", fun _ _ => by rw [writeWithin], .null, balanced_of_isNeutral ?_⟩
  unfold IsNeutral
  decide

theorem survives_bool (b : Bool) : Survives layout (.bool b) := by
  refine ⟨_, fun _ _ => by rw [writeWithin], .bool b, balanced_of_isNeutral ?_⟩
  unfold IsNeutral
  cases b <;> decide

theorem survives_str (s : Text) : Survives layout (.str s) := ⟨writeString s, fun _ _ => by rw [writeWithin], tells_writeString s⟩

theorem survives_int {n : Int} (h : Text.IsShort n) : Survives layout (.int n) :=
  ⟨Text.ofInt n, fun _ _ => by rw [writeWithin, if_pos h], tells_ofInt h⟩

theorem survives_float {x : Binary64} (h : x.isFinite = true) : Survives layout (.float x) := by
  obtain ⟨n, hwritten, hinteger, hnearest, htoken⟩ := Binary64.exists_numeral h
  refine ⟨x.text, fun _ _ => by simp only [writeWithin]; exact if_pos h, ?_⟩
  rw [← htoken, ← hnearest]
  refine tells_number hwritten (.float hinteger ?_)
  rwa [hnearest]

/-! ## Lists and objects -/

/-- Written parts with a readable separator between them are a sequence of what the parts denote. -/
theorem sequence_join {α : Type} {Item : Text → α → Prop} {separator blanks : Text}
    (hseparator : separator = CodePoint.ofChar ',' :: blanks) (hblanks : IsSpace blanks) {part : Text} {x : α} {parts : List Text}
    {xs : List α} (h : Item part x) (hrest : List.Forall₂ Item parts xs) :
    Sequence Item (Text.join separator (part :: parts)) (x :: xs) := by
  have hnone : IsSpace [] := by simp [IsSpace]
  induction hrest generalizing part x with
  | nil => simpa [Text.join] using Sequence.one h hnone
  | @cons part' x' parts xs h' _ ih =>
    have hjoin : Text.join separator (part :: part' :: parts) =
        part ++ ([] ++ (CodePoint.ofChar ',' :: (blanks ++ Text.join separator (part' :: parts)))) := by
      simp [Text.join, hseparator]
    rw [hjoin]
    exact .cons h hnone hblanks (ih h')

/-- Written parts are what may stand between brackets. -/
theorem enclosed_join {α : Type} {Item : Text → α → Prop} {separator blanks : Text}
    (hseparator : separator = CodePoint.ofChar ',' :: blanks) (hblanks : IsSpace blanks) {parts : List Text} {xs : List α}
    (h : List.Forall₂ Item parts xs) : Enclosed Item (Text.join separator parts) xs := by
  have hnone : IsSpace [] := by simp [IsSpace]
  cases h with
  | nil => exact .none hnone
  | cons h hrest => exact .some hnone (sequence_join hseparator hblanks h hrest)

/-- Parts that tell values lie side by side in brackets no deeper than the deepest of the values. -/
theorem balanced_join {separator blanks : Text} (hseparator : separator = CodePoint.ofChar ',' :: blanks) (hblanks : IsSpace blanks)
    {parts : List Text} {depths : List Nat} (h : List.Forall₂ (fun part k => Balanced k part) parts depths) :
    Balanced (depths.foldr max 0) (Text.join separator parts) := by
  have hcomma : Balanced 0 separator := by
    rw [hseparator]
    simpa using (balanced_separator (.inl rfl)).append hblanks.balanced
  induction h with
  | nil => exact balanced_of_isNeutral (by simp [Text.join])
  | @cons part k parts depths hpart hrest ih =>
    cases hrest with
    | nil => simpa [Text.join] using hpart
    | cons h' hrest' => simpa [Text.join] using (hpart.append hcomma).append ih

/-- What may stand between the brackets of a written list. -/
theorem Layout.IsReadable.enclosed_items (hlayout : layout.IsReadable) {P : Text → Value → Prop} {parts : List Text} {items : List Value}
    (h : List.Forall₂ P parts items) : Enclosed P (Text.join layout.itemSeparator parts) items := by
  obtain ⟨blanks, hseparator, hblanks⟩ := hlayout.item
  exact enclosed_join hseparator hblanks h

/-- A written list of parts that tell values tells the list of these. -/
theorem Layout.IsReadable.tells_list (hlayout : layout.IsReadable) {parts : List Text} {items : List Value}
    (h : List.Forall₂ Tells parts items) : Tells (layout.list parts) (.list items) := by
  refine ⟨.list (hlayout.enclosed_items (h.imp fun _ _ h => h.denotes)), ?_⟩
  obtain ⟨blanks, hseparator, hblanks⟩ := hlayout.item
  have hdepth : Value.itemDepth items = (items.map Value.depth).foldr max 0 := by
    clear h
    induction items with
    | nil => rfl
    | cons v rest ih => rw [Value.itemDepth, ih, List.map_cons, List.foldr_cons]
  rw [Value.depth, hdepth]
  refine (balanced_join hseparator hblanks ?_).bracketed (by decide) (by decide)
  rw [List.forall₂_map_right_iff]
  exact h.imp fun _ _ h => h.balanced

theorem survives_list (hlayout : layout.IsReadable) {items : List Value} (h : ∀ v ∈ items, Survives layout v) :
    Survives layout (.list items) := by
  obtain ⟨parts, hparts, htold⟩ := exists_writes_list h
  exact ⟨layout.list parts, hparts, hlayout.tells_list htold⟩

/-- What may stand between the braces of a written object. -/
theorem Layout.IsReadable.enclosed_members (hlayout : layout.IsReadable) {P : Text → Value → Prop} {parts : List (Text × Text)}
    {members : Members} (h : List.Forall₂ (fun part m => part.1 = m.1 ∧ P part.2 m.2) parts members) :
    Enclosed (Member P) (Text.join layout.itemSeparator (parts.map layout.member)) members := by
  obtain ⟨blanks, hseparator, hblanks⟩ := hlayout.item
  obtain ⟨gap, hcolon, hgap⟩ := hlayout.name
  have hnone : IsSpace [] := by simp [IsSpace]
  refine enclosed_join hseparator hblanks ?_
  rw [List.forall₂_map_left_iff]
  refine h.imp ?_
  rintro ⟨name, part⟩ ⟨_, v⟩ ⟨rfl, hP⟩
  have hmember : layout.member (name, part) = CodePoint.ofChar '"' ::
      (name.flatMap escape ++ (CodePoint.ofChar '"' :: ([] ++ (CodePoint.ofChar ':' :: (gap ++ part))))) := by
    simp [Layout.member, writeString, hcolon]
  rw [hmember]
  exact .mk (quotes_flatMap_escape name) hnone hgap hP

/-- Members of which no two have one name mean the object of them. -/
theorem membersMean_of_nodup {members : Members} (h : members.names.Nodup) : MembersMean members members :=
  (membersMean_iff _ _).2 (Members.ofList_of_nodup h).symm

/-- A written object of parts that tell values, under names that differ, tells the object of these. -/
theorem Layout.IsReadable.tells_object (hlayout : layout.IsReadable) {parts : List (Text × Text)} {members : Members}
    (hnames : members.names.Nodup) (h : List.Forall₂ (fun part m => part.1 = m.1 ∧ Tells part.2 m.2) parts members) :
    Tells (layout.object parts) (.dict members) := by
  have hdenotes := h.imp fun _ _ h => And.intro h.1 h.2.denotes
  refine ⟨.object (hlayout.enclosed_members hdenotes) (membersMean_of_nodup hnames), ?_⟩
  obtain ⟨blanks, hseparator, hblanks⟩ := hlayout.item
  obtain ⟨gap, hcolon, hgap⟩ := hlayout.name
  have hdepth : Value.memberDepth members = (members.map fun m => m.2.depth).foldr max 0 := by
    clear h hdenotes hnames
    induction members with
    | nil => rfl
    | cons m rest ih => rw [Value.memberDepth, ih, List.map_cons, List.foldr_cons]
  have hname : Balanced 0 layout.nameSeparator := by
    rw [hcolon]
    simpa using (balanced_separator (.inr rfl)).append hgap.balanced
  rw [Value.depth, hdepth]
  refine (balanced_join hseparator hblanks ?_).bracketed (by decide) (by decide)
  rw [List.forall₂_map_left_iff, List.forall₂_map_right_iff]
  refine h.imp ?_
  rintro ⟨name, part⟩ ⟨_, v⟩ ⟨rfl, htells⟩
  simpa [Layout.member, writeString] using (quotes_flatMap_escape name).balanced.append (hname.append htells.balanced)

theorem survives_dict (hlayout : layout.IsReadable) {members : Members} (hnames : members.names.Nodup)
    (h : ∀ m ∈ members, Survives layout m.2) : Survives layout (.dict members) := by
  obtain ⟨parts, hparts, htold⟩ := exists_writes_dict h
  exact ⟨layout.object parts, hparts, hlayout.tells_object hnames htold⟩

/-- An object whose names are these, each once, and whose values survive survives. -/
theorem survives_object (hlayout : layout.IsReadable) (names : List Text) {members : Members} (hnames : members.names = names)
    (hnodup : names.Nodup) (h : ∀ m ∈ members, Survives layout m.2) : Survives layout (.dict members) :=
  survives_dict hlayout (hnames ▸ hnodup) h

/-- What a text of JSON denotes survives. -/
theorem survives_of_denotes (hlayout : layout.IsReadable) {s : Text} {v : Value} (h : Denotes s v) : Survives layout v := by
  refine Denotes.induct (P := fun _ v => Survives layout v) survives_null survives_bool ?number (fun {_ s} _ => survives_str s)
    (fun h => survives_list hlayout h.forall_mem) ?object h
  case number =>
    intro n v _ hmeans
    cases hmeans with
    | int _ hshort => exact survives_int (isShort_of_length _ hshort)
    | float _ hfinite => exact survives_float hfinite
  case object =>
    intro s ms object h hmean
    rw [(membersMean_iff _ _).1 hmean]
    refine survives_dict hlayout (Members.nodup_names_ofList ms) ?_
    intro m hm
    obtain ⟨-, hv⟩ := h.exists_item hm
    exact hv

end Layouts

/-! ## Depth -/

/-- A scalar that is read has no depth. -/
theorem depth_of_readScalar {s rest : Text} {v : Value} (h : readScalar s = .ok (v, rest)) : v.depth = 0 := by
  unfold readScalar at h
  split at h
  · next w behind hword =>
    cases h
    obtain ⟨word, hmem, hvalue⟩ := List.exists_of_findSome?_eq_some hword
    obtain ⟨_, -, heq⟩ := Option.map_eq_some_iff.1 hvalue
    have hwords : ∀ word ∈ wordValues, ∀ v, word.2 = .ok v → v.depth = 0 := by
      simp [wordValues, Value.depth]
    exact hwords word hmem v (congrArg Prod.fst heq)
  · cases h
  · split at h
    · cases h
    · next n behind hspan =>
      obtain ⟨w, hvalue, heq⟩ := (map_eq_ok_iff _ _ _).1 h
      cases heq
      cases (n.value_eq_ok_iff _).1 hvalue with
      | int _ _ => rfl
      | float _ _ => rfl

/-- A value that is read is no deeper than what is allowed. -/
theorem depth_le_of_readValue (depth : Nat) : ReadsOnly (readValue depth) fun _ v => v.depth ≤ depth := by
  refine readsOnly_readValue (P := fun depth _ v => v.depth ≤ depth) ?scalar ?string ?list ?object depth
  case scalar =>
    intro depth s v rest h
    obtain ⟨token, hs, -⟩ := denotes_of_readScalar h
    exact ⟨token, hs, (depth_of_readScalar h).trans_le (Nat.zero_le depth)⟩
  case string =>
    intro depth raw s _
    exact Nat.zero_le _
  case list =>
    intro inner s items h
    rw [Value.depth, Nat.succ_le_succ_iff, Value.itemDepth_le_iff]
    exact h.forall_mem
  case object =>
    intro inner s ms h
    rw [Value.depth, Nat.succ_le_succ_iff, Value.memberDepth_le_iff]
    intro m hm
    obtain ⟨-, hv⟩ := h.exists_item hm
    exact hv

/-- A value that a text is read as is no deeper than values may be. -/
theorem depth_le_of_read {text : Text} {v : Value} (h : read text = .ok v) : v.depth ≤ nestingLimit := by
  rw [read] at h
  split at h
  · cases h
  · split at h
    · cases h
    · next w rest hread =>
      obtain ⟨-, -, hdepth⟩ := depth_le_of_readValue _ hread
      split at h
      · cases h
        exact hdepth
      · cases h

/-- A text that tells a value is read as the value when the value is not too deep. -/
theorem Tells.read_eq {text : Text} {v : Value} (h : Tells text v) (hdepth : v.depth ≤ nestingLimit) : read text = .ok v := by
  refine read_of_isDocument ⟨[], text, [], by simp, by simp [IsSpace], by simp [IsSpace], h.denotes⟩ ?_
  rwa [h.balanced.nesting_eq]

end Json

end Admission
