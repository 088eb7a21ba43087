import Admission.Calendar.Date
import Admission.DatePattern.Basic
import Admission.Text.Blank
import Admission.Text.Case

/-!
# How a text fits a date pattern

A text is fitted from left to right to the elements of a pattern. An element may fit the text in several ways; they are
tried in a fixed order, and the first way in which all elements fit is taken, whether or not it reaches the end of the
text. Letters are compared without regard to case, and a run of blanks in the pattern fits any run of blanks.
-/

namespace Admission.DatePattern

/-- What a text is read against. -/
inductive Element where
  | part (p : DatePart)
  | literal (c : CodePoint)
  | gap
  deriving DecidableEq

/-- The elements of pieces: neighbouring blanks make one gap. -/
def elements : List Piece → List Element
  | [] => []
  | .part p :: rest => .part p :: elements rest
  | .literal c :: rest =>
    if c.isBlank then
      match elements rest with
      | .gap :: more => .gap :: more
      | more => .gap :: more
    else .literal c :: elements rest

/-- A part that has been read, with its number; a name that was matched only by a fellow of one of its letters has
none. -/
abbrev Found := DatePart × Option Nat

/-- The ASCII digit in front of a text, when its value lies in a range. -/
def digitIn? (least most : Nat) : Text → Option (Nat × Text)
  | [] => none
  | c :: rest =>
    match c.asciiDigit? with
    | some n => if least ≤ n ∧ n ≤ most then some (n, rest) else none
    | none => none

/-- The digit of any script in front of a text. -/
def digitOfAnyScript? : Text → Option (Nat × Text)
  | [] => none
  | c :: rest => c.digit?.map fun n => (n, rest)

/-- Two digits, the first a given one, as one number. -/
def twoDigits? (first : Nat) (second? : Text → Option (Nat × Text)) (s : Text) : Option (Nat × Text) :=
  match digitIn? first first s with
  | none => none
  | some (_, s) => (second? s).map fun r => (10 * first + r.1, r.2)

/-- A blank and a digit. -/
def spacedDigit? : Text → Option (Nat × Text)
  | [] => none
  | c :: rest => if c = ' ' then digitIn? 1 9 rest else none

/-- A fixed count of digits of any script, as one number. -/
def digits? (count : Nat) (s : Text) : Option (Nat × Text) :=
  if s.length < count then none
  else ((s.take count).mapM CodePoint.digit?).map fun ds => (ofDigits ds, s.drop count)

/-- A name in front of a text, letter case disregarded: the text that matched it, and the text behind. -/
def dropName? : Text → Text → Option (Text × Text)
  | [], s => some ([], s)
  | _ :: _, [] => none
  | p :: ps, c :: cs => if p.admits c then (dropName? ps cs).map fun r => (c :: r.1, r.2) else none

/-- The months whose names stand in front of a text. The number counts only if the lower case of what matched is the
name. -/
def namedMonths (names : List Text) (s : Text) : List (Option Nat × Text) :=
  names.zipIdx.filterMap fun (name, index) =>
    (dropName? name s).map fun (matched, rest) => (if matched.lower = name then some (index + 1) else none, rest)

/-- The ways in which a part fits the front of a text, in the order in which they are tried. -/
def partWays (p : DatePart) (s : Text) : List (Option Nat × Text) :=
  let numbers (ways : List (Option (Nat × Text))) : List (Option Nat × Text) :=
    ways.filterMap fun way => way.map fun r => (some r.1, r.2)
  match p with
  | .year => numbers [digits? 4 s]
  | .shortYear => numbers [digits? 2 s]
  | .month => numbers [twoDigits? 1 (digitIn? 0 2) s, twoDigits? 0 (digitIn? 1 9) s, digitIn? 1 9 s]
  | .day =>
    numbers [twoDigits? 3 (digitIn? 0 1) s, twoDigits? 1 digitOfAnyScript? s, twoDigits? 2 digitOfAnyScript? s,
      twoDigits? 0 (digitIn? 1 9) s, digitIn? 1 9 s, spacedDigit? s]
  | .monthName => namedMonths monthNames s
  | .shortMonthName => namedMonths (monthNames.map (·.take 3)) s

/-- The ways in which an element fits the front of a text. A gap takes as many blanks as it can first, and at least
one. -/
def Element.ways (e : Element) (s : Text) : List (List Found × Text) :=
  match e with
  | .part p => (partWays p s).map fun r => ([(p, r.1)], r.2)
  | .literal p =>
    match s with
    | [] => []
    | c :: rest => if p.admits c then [([], rest)] else []
  | .gap => ((List.range (s.takeWhile CodePoint.isBlank).length).map fun n => ([], s.drop (n + 1))).reverse

/-- The first way in which elements fit the front of a text, one behind another. -/
def firstFit : List Element → Text → Option (List Found × Text)
  | [], s => some ([], s)
  | e :: rest, s => (e.ways s).findSome? fun way => (firstFit rest way.2).map fun r => (way.1 ++ r.1, r.2)

end Admission.DatePattern
