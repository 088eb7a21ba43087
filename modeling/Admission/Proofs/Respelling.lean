import Admission.Proofs.IntegerOutcomes
import Admission.Proofs.Json.RoundTrip
import Admission.Proofs.Json.Writing
import Admission.Proofs.MemberOrder

/-!
# Integers in quotes

An integer may be told as a number or as a text that spells it: with blanks around, a sign, zeros in front, and digits of any script
(`Respelling`). The reader of numbers and that of texts are apart, but a pass that finds the text in the place of the number ends as it
did, and what it tells of the field is the integer in both (`validate_respelled`).
-/

namespace Admission

/-- A spelling of an integer as a text: blanks around it, a minus or, where the integer is not negative, a plus or no sign, zeros in
front, and the decimal digits of its size, one by one in the digits of any script, no more digits in all than one integer may have. -/
structure Respelling (n : Int) where
  before : Text
  sign : Text
  zeros : Text
  digits : Text
  after : Text
  before_blank : ∀ c ∈ before, c.isBlank = true
  sign_fits : (0 ≤ n ∧ (sign = [] ∨ sign = "+")) ∨ (n ≤ 0 ∧ sign = "-")
  zeros_zero : ∀ c ∈ zeros, c.digit? = some 0
  digits_value : digits.map CodePoint.digit? = (Text.ofNat n.natAbs).map CodePoint.asciiDigit?
  short : zeros.length + digits.length ≤ digitLimit
  after_blank : ∀ c ∈ after, c.isBlank = true

namespace Respelling

variable {n : Int} (spelling : Respelling n)

/-- The number of a spelling, without what is around it. -/
def number : Text := spelling.sign ++ (spelling.zeros ++ spelling.digits)

/-- The text of a spelling. -/
def text : Text := spelling.before ++ (spelling.number ++ spelling.after)

/-- A spelling has zeros and then the digits of its integer as values. -/
theorem map_digit? :
    (spelling.zeros ++ spelling.digits).map CodePoint.digit? =
      List.replicate spelling.zeros.length (some 0) ++ (Text.ofNat n.natAbs).map CodePoint.asciiDigit? := by
  rw [List.map_append, List.map_eq_replicate_iff.2 spelling.zeros_zero, spelling.digits_value]

/-- What stands behind the sign of a spelling is decimal digits. -/
theorem isDigit_of_mem : ∀ c ∈ spelling.zeros ++ spelling.digits, c.isDigit = true := by
  intro c hc
  have hvalue := List.mem_map_of_mem (f := CodePoint.digit?) hc
  rw [map_digit?, List.mem_append] at hvalue
  rw [CodePoint.isDigit]
  rcases hvalue with hzero | hdigit
  · rw [List.eq_of_mem_replicate hzero]
    rfl
  · obtain ⟨d, hd, heq⟩ := List.mem_map.1 hdigit
    rw [← heq]
    exact (Text.isDigits_ofNat n.natAbs).2 d hd

/-- A spelling spells an integer. -/
theorem spells : spelling.number.Spells spelling.sign (spelling.zeros ++ spelling.digits) where
  split := rfl
  sign_mem := by
    rcases spelling.sign_fits with ⟨-, h | h⟩ | ⟨-, h⟩
    · exact .inl h
    · exact .inr (.inl h)
    · exact .inr (.inr h)
  ne_nil := by
    have hlength := congrArg List.length spelling.digits_value
    rw [List.length_map, List.length_map] at hlength
    have hpos := List.length_pos_of_ne_nil (Text.isDigits_ofNat n.natAbs).1
    exact List.append_ne_nil_of_right_ne_nil _ (List.ne_nil_of_length_pos (by omega))
  isDigit := spelling.isDigit_of_mem

/-- A spelling spells its integer. -/
theorem intOf_eq : Text.intOf spelling.sign (spelling.zeros ++ spelling.digits) = n := by
  have hsize : ofDigits ((spelling.zeros ++ spelling.digits).filterMap CodePoint.digit?) = n.natAbs := by
    have hvalues := congrArg (List.filterMap id) spelling.map_digit?
    have hzeros : List.filterMap id (List.replicate spelling.zeros.length (some 0)) = List.replicate spelling.zeros.length 0 :=
      List.filterMap_replicate_of_some rfl
    rw [List.filterMap_append, List.filterMap_map, List.filterMap_map, hzeros, Function.id_comp, Function.id_comp] at hvalues
    rw [hvalues, ofDigits_zeros_append]
    exact Json.Numeral.digitsValue_ofNat n.natAbs
  rw [Text.intOf, hsize, signed]
  rcases spelling.sign_fits with ⟨hn, h | h⟩ | ⟨hn, h⟩
  · rw [h, if_neg (by decide)]
    omega
  · rw [h, if_neg (by decide)]
    omega
  · rw [h, if_pos (by decide)]
    omega

/-- Nothing but the number is left of a spelling when it is stripped. -/
theorem strip_text : spelling.text.strip = spelling.number := by
  have hnone : ∀ c ∈ spelling.number, c.isBlank = false := by
    intro c hc
    rcases List.mem_append.1 hc with hc | hc
    · rcases spelling.spells.sign_mem with h | h | h
      · rw [h] at hc
        cases hc
      · rw [h] at hc
        cases List.mem_singleton.1 hc
        decide
      · rw [h] at hc
        cases List.mem_singleton.1 hc
        decide
    · exact CodePoint.isBlank_of_isDigit (spelling.isDigit_of_mem c hc)
  exact Text.trim_append spelling.before_blank (fun c hc => hnone c (List.mem_of_mem_head? hc))
    (fun c hc => hnone c (List.mem_of_mem_getLast? hc)) spelling.after_blank

theorem integerOf_text (name : Text) : Payload.integerOf name (.str spelling.text) = .ok (some n) := by
  have hread : spelling.number.readSigned = .ok n := by
    refine (Text.readSigned_eq_ok_iff _ _).2 ⟨_, _, spelling.spells, ?_, spelling.intOf_eq.symm⟩
    rw [List.length_append]
    exact spelling.short
  rw [Payload.integerOf, spelling.strip_text, if_neg spelling.spells.text_ne_nil, hread]

end Respelling

namespace Payload

/-- A payload that was read, with a text in the place of one of its values, is a payload that some text is read as. -/
theorem exists_read_put {text : Option Text} {payload : Payload} (hread : Payload.read text = .ok payload) (name s : Text) :
    ∃ otherText, Payload.read (some otherText) = .ok (payload.put name (.str s)) := by
  obtain ⟨t, rfl, before, u, after, -, -, -, hdenotes⟩ := isDocument_of_read hread
  have hnodup : (payload.put name (.str s)).names.Nodup := by
    have hput : Members.ofList (payload ++ [(name, .str s)]) = payload.put name (.str s) := by
      rw [Members.ofList_concat, Members.ofList_of_nodup (nodup_names_of_read hread)]
    rw [← hput]
    exact Members.nodup_names_ofList _
  have hsurvives : ∀ m ∈ payload.put name (.str s), Json.Survives .compact m.2 := by
    intro m hm
    rcases Members.snd_eq_or_mem_of_mem_put hm with heq | hm
    · rw [heq]
      exact Json.survives_str s
    · obtain ⟨w, hw⟩ := Json.exists_denotes_of_mem hdenotes hm
      exact Json.survives_of_denotes Json.isReadable_compact hw
  obtain ⟨otherText, -, htells⟩ := Json.survives_dict Json.isReadable_compact hnodup hsurvives
  have hdepth : (Value.dict (payload.put name (.str s))).depth ≤ (Value.dict payload).depth := by
    rw [Value.depth, Value.depth, Nat.succ_le_succ_iff, Value.memberDepth_le_iff]
    intro m hm
    rcases Members.snd_eq_or_mem_of_mem_put hm with heq | hm
    · rw [heq]
      exact Nat.zero_le _
    · exact (Value.memberDepth_le_iff payload _).1 (Nat.le_refl _) m hm
  have hlimit := hdepth.trans (Json.depth_le_of_read ((read_eq_ok_iff_read t payload).1 hread))
  exact ⟨otherText, (read_eq_ok_iff_read _ _).2 (htells.read_eq hlimit)⟩

end Payload

namespace Gate

section Respelled

variable {g : Gate} {mode : Mode} {payload : Payload} {f : Field} {n : Int}

/-- A field of integers is extracted alike whether the payload holds the integer or spells it. -/
theorem extract_put_respelled (hkind : f.kind = .integer) (hvalue : payload.get f.name = .int n) (spelling : Respelling n) :
    payload.extract g.defaults f.kind f.name =
      Payload.extract g.defaults (payload.put f.name (.str spelling.text)) f.kind f.name := by
  rw [hkind, Payload.extract, Payload.extract, Payload.integerField, Payload.integerField, hvalue, Members.get_put, if_pos rfl,
    spelling.integerOf_text]
  rfl

/-- A payload that spells the integer of a field is examined with the result of the payload that holds it. -/
theorem examinePayload_put_respelled (hkind : f.kind = .integer) (honly : ∀ q ∈ g.schema.fields mode, q.name = f.name → q = f)
    (hformat : f.name ≠ Payload.dateFormatName) (hlocale : f.name ≠ Payload.localeName) (hvalue : payload.get f.name = .int n)
    (spelling : Respelling n) :
    g.examinePayload mode payload = g.examinePayload mode (payload.put f.name (.str spelling.text)) := by
  have hmem : f.name ∈ payload.names := by
    refine Members.mem_names_of_get_ne_null ?_
    rw [hvalue]
    nofun
  have hnames : (payload.put f.name (.str spelling.text)).names = payload.names := by rw [Members.names_put, if_pos hmem]
  have hdate : payload.get Payload.dateFormatName =
      (payload.put f.name (.str spelling.text)).get Payload.dateFormatName := by
    rw [Members.get_put, if_neg hformat.symm]
  have hother : payload.get Payload.localeName = (payload.put f.name (.str spelling.text)).get Payload.localeName := by
    rw [Members.get_put, if_neg hlocale.symm]
  have hmembers : ∀ name, name ∈ payload.names ↔ name ∈ (payload.put f.name (.str spelling.text)).names := by
    intro name
    rw [hnames]
  refine examinePayload_eq_of_extract (checkStructure_eq_of_context hmembers hdate hother) (fun q _ => hmembers q.name) ?_
  intro q hq
  obtain ⟨hfield, -⟩ := mem_checked_iff.1 hq
  by_cases hname : q.name = f.name
  · rw [honly q hfield hname]
    exact extract_put_respelled hkind hvalue spelling
  · have hhas := (Members.has_eq_has_iff payload _ q.name).2 (hmembers q.name)
    have hget : payload.get q.name = (payload.put f.name (.str spelling.text)).get q.name := by
      rw [Members.get_put, if_neg hname]
    exact Payload.AgreeAbout.extract_eq ⟨hhas, hget, hdate⟩ g.defaults q.kind

/-- What a pass decides at a field of integers, which is the only one of its name, is about the integer that the payload holds. -/
theorem value_eq_of_decides (hkind : f.kind = .integer) (honly : ∀ q ∈ g.schema.fields mode, q.name = f.name → q = f)
    (hvalue : payload.get f.name = .int n) {violations : List Violation}
    (h : Decides g.schema.resource (g.validatePayload mode payload) violations) :
    ∀ v ∈ violations, v.field = f.name → v.value = .int n := by
  obtain ⟨-, hnames, -, rfl⟩ := of_examinePayload_eq_ok (examinePayload_of_decides h)
  intro v hv hfield
  obtain ⟨q, hq, hv⟩ := List.mem_flatMap.1 hv
  obtain ⟨hmem, -⟩ := mem_checked_iff.1 hq
  obtain rfl : q = f := honly q hmem ((field_eq_of_mem_deserved hv).symm.trans hfield)
  have hextract : payload.extract g.defaults q.kind q.name = .ok (.int n) := by
    rw [hkind, Payload.extract, Payload.integerField_eq (hnames q hmem), hvalue]
    rfl
  rw [deserved, hextract] at hv
  obtain ⟨r, -, rfl⟩ := List.mem_map.1 hv
  rfl

end Respelled

/-- Integers in quotes, in three parts, for a field of integers that is the only one of its name and no member of the context, and for a
command whose payload holds an integer there.
1. The payload with any spelling of the integer in its place is the payload of some command.
2. Every command of which it is the payload, in whatever order of members, ends as the first command does: both are let through, or
   both end in the same fault, a rejection with all its details included.
3. Where they end by a decision, every violation at the field tells the integer itself, not its spelling. -/
theorem validate_respelled (g : Gate) (mode : Mode) (f : Field) (hkind : f.kind = .integer)
    (honly : ∀ q ∈ g.schema.fields mode, q.name = f.name → q = f) (hformat : f.name ≠ Payload.dateFormatName)
    (hlocale : f.name ≠ Payload.localeName) (text : Option Text) (payload : Payload) (hread : Payload.read text = .ok payload)
    (n : Int) (hvalue : payload.get f.name = .int n) (spelling : Respelling n) :
    (∃ otherText, Payload.read (some otherText) = .ok (payload.put f.name (.str spelling.text))) ∧
      ∀ otherText other, Payload.read otherText = .ok other → other.Same (payload.put f.name (.str spelling.text)) →
        g.validate mode otherText = g.validate mode text ∧
          ∀ violations, Decides g.schema.resource (g.validate mode otherText) violations →
            ∀ v ∈ violations, v.field = f.name → v.value = .int n := by
  refine ⟨Payload.exists_read_put hread f.name spelling.text, ?_⟩
  intro otherText other hother hsame
  have hend : g.validate mode otherText = g.validate mode text := by
    rw [validate_eq_of_read hother, validate_eq_of_read hread, validatePayload, validatePayload, examinePayload_eq_of_same hsame,
      examinePayload_put_respelled hkind honly hformat hlocale hvalue spelling]
  refine ⟨hend, ?_⟩
  intro violations hdecides
  rw [hend, validate_eq_of_read hread] at hdecides
  exact value_eq_of_decides hkind honly hvalue hdecides

/-- A minus, a zero in front and a full-width seven, with an em space and a line break around them. -/
def minusSeven : Respelling (-7) where
  before := [⟨0x2003, by decide⟩]
  sign := "-"
  zeros := "0"
  digits := [⟨0xFF17, by decide⟩]
  after := "\n"
  before_blank := by decide
  sign_fits := .inr ⟨by decide, rfl⟩
  zeros_zero := by decide
  digits_value := by cbv
  short := by decide
  after_blank := by decide

/-- The seats of a room, as a create command has them. -/
def seats : Field := { name := "seats", kind := .integer, requiredOnCreate := true, rules := [.notNull, .positive] }

/-- A room of minus seven seats with too long a code, and the same room with its seats in quotes and its members in the other order: both
commands are rejected alike, and the violation at the seats tells the number. -/
theorem room_validate_minus_seven :
    room.validate .create (some ("\x7b\"seats\": \"\\u2003-0\\uff17\\n\", \"code\": \"R0001\"\x7d" : Text)) =
        room.validate .create (some ("\x7b\"code\": \"R0001\", \"seats\": -7\x7d" : Text)) ∧
      Decides "room" (room.validate .create (some ("\x7b\"code\": \"R0001\", \"seats\": -7\x7d" : Text)))
        [(Rule.maxLength 4).violation "room" "code" (.str "R0001"), Rule.positive.violation "room" "seats" (.int (-7))] := by
  have honly : ∀ q ∈ room.schema.fields .create, q.name = seats.name → q = seats := by
    intro q hq hname
    rcases List.mem_pair.1 hq with rfl | rfl
    · exact absurd hname (by decide)
    · rfl
  have hread : Payload.read (some ("\x7b\"code\": \"R0001\", \"seats\": -7\x7d" : Text)) =
      .ok [("code", .str "R0001"), ("seats", .int (-7))] := by cbv
  have hother : Payload.read (some ("\x7b\"seats\": \"\\u2003-0\\uff17\\n\", \"code\": \"R0001\"\x7d" : Text)) =
      .ok [("seats", .str minusSeven.text), ("code", .str "R0001")] := by cbv
  have hfound : room.examinePayload .create [("code", .str "R0001"), ("seats", .int (-7))] =
      .ok [(Rule.maxLength 4).violation "room" "code" (.str "R0001"), Rule.positive.violation "room" "seats" (.int (-7))] := by
    rw [examinePayload_of_sound ⟨by decide, .inl rfl, .inl rfl⟩]
    rfl
  have hsame : Members.Same [("seats", .str minusSeven.text), ("code", .str "R0001")]
      (Members.put [("code", .str "R0001"), ("seats", .int (-7))] seats.name (.str minusSeven.text)) :=
    (Members.same_iff_perm (by decide) (by decide)).2 (List.Perm.swap ..)
  obtain ⟨-, hend⟩ := validate_respelled room .create seats rfl honly (by decide) (by decide) _ _ hread (-7) rfl minusSeven
  obtain ⟨heq, -⟩ := hend _ _ hother hsame
  refine ⟨heq, ?_⟩
  rw [validate_eq, hread]
  exact decides_of_examinePayload (room_reportable .create) (room_hasShortLimits .create) hfound

end Gate

end Admission
