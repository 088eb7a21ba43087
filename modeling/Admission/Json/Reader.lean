import Admission.Json.Number
import Admission.Json.Quotation

/-!
# Reading JSON

A reader takes a value from the front of a text and leaves the rest. It recurs on the nesting that is still allowed, and
the items of a list or an object are taken by a loop that knows nothing of values. The first fault from the left is the
one that is told: a constant that is no number, a number out of range and too deep a nesting count where they are
reached, whatever stands behind them.
-/

namespace Admission.Json

/-- The white space of JSON. -/
def isSpace (c : CodePoint) : Bool := decide (c = ' ' ∨ c = '\t' ∨ c = '\n' ∨ c = '\r')

/-- A text without the white space in front. -/
def skipSpace (s : Text) : Text := s.dropWhile isSpace

/-- The text behind a beginning, when a text begins so. -/
def dropPrefix? : Text → Text → Option Text
  | [], s => some s
  | _ :: _, [] => none
  | p :: ps, c :: cs => if p = c then dropPrefix? ps cs else none

/-- A text begins so exactly when it is the beginning and what is left. -/
theorem dropPrefix?_eq_some_iff (p s rest : Text) : dropPrefix? p s = some rest ↔ s = p ++ rest := by
  induction p generalizing s with
  | nil => simp [dropPrefix?, eq_comm]
  | cons c p ih =>
    cases s with
    | nil => simp [dropPrefix?]
    | cons d s =>
      by_cases h : c = d
      · simp [dropPrefix?, h, ih]
      · simp [dropPrefix?, h, Ne.symm h]

/-- The words that are values, and the words for numbers that are none. -/
def wordValues : List (Text × Except Error Value) :=
  [("null", .ok .null), ("true", .ok (.bool true)), ("false", .ok (.bool false)), ("NaN", .error (.constant "NaN")),
   ("Infinity", .error (.constant "Infinity")), ("-Infinity", .error (.constant "-Infinity"))]

/-- The word in front of a text: its value, and the text behind it. -/
def readWord? (s : Text) : Option (Except Error Value × Text) :=
  wordValues.findSome? fun w => (dropPrefix? w.1 s).map fun rest => (w.2, rest)

/-- A value that is neither a string nor nested: a word or a number. -/
def readScalar (s : Text) : Except Error (Value × Text) :=
  match readWord? s with
  | some (.ok v, rest) => .ok (v, rest)
  | some (.error e, _) => .error e
  | none =>
    match spanNumeral s with
    | none => .error (.problem .expectingValue s)
    | some (n, rest) => n.value.map fun v => (v, rest)

/-- Items with commas between them, up to a closing code point; there is at least one. The loop runs at most as often as
there are code points, and every round but the last passes a comma. -/
def readItems {α : Type} (item : Text → Except Error (α × Text)) (close : CodePoint) :
    Nat → Text → Except Error (List α × Text)
  | 0, s => .error (.problem .expectingComma s)
  | rounds + 1, s =>
    match item s with
    | .error e => .error e
    | .ok (first, s) =>
      match skipSpace s with
      | [] => .error (.problem .expectingComma [])
      | c :: rest =>
        if c = close then .ok ([first], rest)
        else if c = ',' then
          match readItems item close rounds (skipSpace rest) with
          | .error e => .error e
          | .ok (items, rest) => .ok (first :: items, rest)
        else .error (.problem .expectingComma (c :: rest))

/-- The items between an opening, which has been passed, and a closing code point; there may be none. -/
def readSequence {α : Type} (item : Text → Except Error (α × Text)) (close : CodePoint) (s : Text) :
    Except Error (List α × Text) :=
  match skipSpace s with
  | [] => readItems item close 1 []
  | c :: rest => if c = close then .ok ([], rest) else readItems item close (rest.length + 1) (c :: rest)

/-- A member of an object: a name in quotes, a colon and a value. -/
def readMember (value : Text → Except Error (Value × Text)) (s : Text) : Except Error ((Text × Value) × Text) :=
  match s with
  | [] => .error (.problem .expectingName [])
  | c :: rest =>
    if c = '"' then
      match readString (c :: rest) rest with
      | .error e => .error e
      | .ok (name, rest) =>
        match skipSpace rest with
        | [] => .error (.problem .expectingColon [])
        | d :: rest =>
          if d = ':' then
            match value (skipSpace rest) with
            | .error e => .error e
            | .ok (v, rest) => .ok ((name, v), rest)
          else .error (.problem .expectingColon (d :: rest))
    else .error (.problem .expectingName (c :: rest))

/-- The value in front of a text, nested at most so deep, and the text behind it. -/
def readValue : Nat → Text → Except Error (Value × Text)
  | _, [] => .error (.problem .expectingValue [])
  | depth, c :: rest =>
    if c = '"' then (readString (c :: rest) rest).map fun r => (.str r.1, r.2)
    else if c = '[' then
      match depth with
      | 0 => .error .tooDeep
      | inner + 1 => (readSequence (readValue inner) ']' rest).map fun r => (.list r.1, r.2)
    else if c = '{' then
      match depth with
      | 0 => .error .tooDeep
      | inner + 1 =>
        (readSequence (readMember (readValue inner)) '}' rest).map fun r => (.dict (Members.ofList r.1), r.2)
    else readScalar (c :: rest)

/-- The mark that some writers put in front of a text. -/
def byteOrderMark : CodePoint := ⟨0xFEFF, by decide⟩

/-- The value of a text: one value with nothing but white space around it. -/
def read (text : Text) : Except Error Value :=
  if text.head? = some byteOrderMark then .error (.problem .byteOrderMark text)
  else
    match readValue nestingLimit (skipSpace text) with
    | .error e => .error e
    | .ok (v, rest) =>
      match skipSpace rest with
      | [] => .ok v
      | c :: rest => .error (.problem .extraData (c :: rest))

end Admission.Json
