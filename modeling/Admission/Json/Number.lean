import Admission.Json.Error
import Admission.Value.Basic

/-!
# Numbers of JSON

A number is taken from the front of a text as far as the grammar reaches: a fraction needs a digit behind its point, and
an exponent needs a digit behind its sign, else the number ends before them. A number with a fraction or an exponent is a
binary one; a number without is a whole one of any size that the digit limit admits.
-/

namespace Admission.Json

/-- The parts of a number as written. -/
structure Numeral where
  negative : Bool
  whole : Text
  fraction : Text
  exponent : Text

/-- The ASCII digits in front of a text, and the text behind them. -/
def spanDigits (s : Text) : Text × Text := (s.takeWhile CodePoint.isAsciiDigit, s.dropWhile CodePoint.isAsciiDigit)

theorem spanDigits_append (s : Text) : (spanDigits s).1 ++ (spanDigits s).2 = s := List.takeWhile_append_dropWhile

/-- The whole part in front of a text: a zero alone, or digits that do not begin with a zero. -/
def spanWhole : Text → Option (Text × Text)
  | [] => none
  | c :: rest =>
    if c = '0' then some ([c], rest)
    else if c.isAsciiDigit then some (spanDigits (c :: rest))
    else none

/-- The fraction in front of a text, its point included; empty when there is none. -/
def spanFraction : Text → Text × Text
  | [] => ([], [])
  | c :: rest =>
    let (digits, behind) := spanDigits rest
    if c = '.' ∧ digits ≠ [] then (c :: digits, behind) else ([], c :: rest)

/-- The sign of an exponent in front of a text, as written. -/
def spanSign : Text → Text × Text
  | [] => ([], [])
  | c :: rest => if c = '+' ∨ c = '-' then ([c], rest) else ([], c :: rest)

/-- The exponent in front of a text, its letter and sign included; empty when there is none. -/
def spanExponent : Text → Text × Text
  | [] => ([], [])
  | c :: rest =>
    let (sign, behind) := spanSign rest
    let (digits, behind) := spanDigits behind
    if (c = 'e' ∨ c = 'E') ∧ digits ≠ [] then (c :: (sign ++ digits), behind) else ([], c :: rest)

/-- The number in front of a text, and the text behind it. -/
def spanNumeral (s : Text) : Option (Numeral × Text) :=
  let (negative, body) : Bool × Text :=
    match s with
    | [] => (false, [])
    | c :: rest => if c = '-' then (true, rest) else (false, c :: rest)
  match spanWhole body with
  | none => none
  | some (whole, rest) =>
    let (fraction, rest) := spanFraction rest
    let (exponent, rest) := spanExponent rest
    some (⟨negative, whole, fraction, exponent⟩, rest)

namespace Numeral

/-- A number as written. -/
def token (n : Numeral) : Text := (if n.negative then "-" else "") ++ n.whole ++ n.fraction ++ n.exponent

/-- The value of a text of ASCII digits. -/
def digitsValue (s : Text) : Nat := ofDigits (s.filterMap CodePoint.asciiDigit?)

/-- The value of an exponent as written. -/
def power (n : Numeral) : Int :=
  match Text.splitSign (n.exponent.drop 1) with
  | (negative, digits) => signed negative (digitsValue digits)

/-- The value of a number: a whole one has a digit limit, a binary one has to be finite. -/
def value (n : Numeral) : Except Error Value :=
  if n.fraction = [] ∧ n.exponent = [] then
    if n.whole.length > digitLimit then .error (.tooManyDigits n.whole.length)
    else .ok (.int (signed n.negative (digitsValue n.whole)))
  else
    let digits := n.whole ++ n.fraction.drop 1
    let x := Binary64.ofDecimal n.negative (digitsValue digits) (n.power - (n.fraction.drop 1).length)
    if x.isFinite then .ok (.float x) else .error (.outOfRange n.token)

end Numeral

end Admission.Json
