import Admission.Text.Integer

/-!
# Integers in paths

An integer in a path has to be above a bound. Its text may have white space around it, a plus, zeros in front,
single underscores between digits, and a fraction of zeros only. What is left once those are taken away has to be an
integer without ornament: a minus or none, and ASCII digits that do not begin with a zero unless it is the only one. A
minus may stand in front of the zeros or behind them.
-/

namespace Admission

/-- Why a text is no integer above a bound. -/
inductive PathIntegerFault where
  | unreadable
  | tooLong
  | notAbove (bound : Int)
  deriving DecidableEq

namespace PathIntegerFault

/-- The name of a fault. -/
def kind : PathIntegerFault → Text
  | .unreadable => "int_parsing"
  | .tooLong => "int_parsing_size"
  | .notAbove _ => "greater_than"

/-- What is told of a fault. -/
def message : PathIntegerFault → Text
  | .unreadable => "Input should be a valid integer, unable to parse string as an integer"
  | .tooLong => "Unable to parse input string as an integer, exceeded maximum size"
  | .notAbove bound => "Input should be greater than " ++ Text.ofInt bound

end PathIntegerFault

namespace PathInteger

/-- A text without a plus in front; a plus in front of a minus stays. -/
def dropPlus : Text → Text
  | [] => []
  | [c] => if c = '+' then [] else [c]
  | c :: d :: rest => if c = '+' ∧ d ≠ '-' then d :: rest else c :: d :: rest

/-- A text without the minus in front of it, and whether there was one. -/
def splitMinus : Text → Bool × Text
  | [] => (false, [])
  | c :: rest => if c = '-' then (true, rest) else (false, c :: rest)

/-- What follows zeros, and underscores among them: the rest from the first digit that is no zero or from a minus on, or
the last code point passed, with the fraction when there is one. -/
def dropZeros (last : CodePoint) : Text → Option Text
  | [] => some [last]
  | c :: rest =>
    if c = '0' ∨ c = '_' then dropZeros c rest
    else if c.isAsciiDigit ∨ c = '-' then some (c :: rest)
    else if c = '.' then some (last :: c :: rest)
    else none

/-- A text without zeros in front of its other digits; it has to begin with a digit or a minus. -/
def dropLeadingZeros : Text → Option Text
  | [] => none
  | c :: rest =>
    if c = '0' then dropZeros c rest else if c.isAsciiDigit ∨ c = '-' then some (c :: rest) else none

/-- A text without its fraction, which has to be of zeros, one or more. -/
def dropFraction (s : Text) : Option Text :=
  match s.dropWhile fun (c : CodePoint) => decide (c ≠ '.') with
  | [] => some s
  | [_] => none
  | _ :: fraction =>
    if fraction.all fun (c : CodePoint) => decide (c = '0') then some (s.takeWhile fun (c : CodePoint) => decide (c ≠ '.'))
    else none

/-- A text without its underscores, which may stand one by one and at neither end. -/
def dropUnderscores (s : Text) : Option Text :=
  if s.head? = some (CodePoint.ofChar '_') || !Text.underscoresApart s then none
  else some (s.filter fun (c : CodePoint) => decide (c ≠ '_'))

/-- The greatest number of digits. -/
def maxDigits : Nat := 4301

/-- ASCII digits without a zero in front of others, and not too many. -/
def plainNumber? : Text → Option Nat
  | [] => none
  | c :: rest =>
    if (c = '0' ∧ rest ≠ []) ∨ maxDigits ≤ rest.length then none
    else ((c :: rest).mapM CodePoint.asciiDigit?).map ofDigits

/-- An integer without ornament. -/
def plainInteger? (s : Text) : Option Int :=
  let (negative, body) := splitMinus s
  (plainNumber? body).map (signed negative)

/-- The integer that a text with ornament denotes. -/
def integer? (s : Text) : Option Int := do
  let (negative, s) := splitMinus (dropPlus (s.trim CodePoint.isWhiteSpace))
  let s ← dropLeadingZeros s
  let s ← dropFraction s
  let s ← dropUnderscores s
  plainInteger? (if negative then '-' :: s else s)

/-- A text that begins as an integer without ornament that has too many digits. -/
def isTooLong (s : Text) : Bool :=
  let digits := (splitMinus s).2.takeWhile CodePoint.isAsciiDigit
  decide (digits.head? ≠ some (CodePoint.ofChar '0')) && decide (maxDigits < digits.length)

/-- The integer above a bound that a text denotes. -/
def readAbove (bound : Int) (s : Text) : Except PathIntegerFault Int :=
  if isTooLong s then .error .tooLong
  else
    match integer? s with
    | none => .error .unreadable
    | some n => if bound < n then .ok n else .error (.notAbove bound)

end PathInteger

end Admission
