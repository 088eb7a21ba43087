import Admission.Binary64.Shortest

/-!
# Rounded decimals of a binary number

A number that is not negative, as a fraction, rounded to so many places or so many digits and laid out: with its point
(`fixedText`), with an exponent (`scientificText`), or in the shorter of the two ways (`generalText`). The fraction is
exact and a tie goes to the even digit. With `point`, a point stands also where no digit is behind it, and zeros at the end
stay.
-/

namespace Admission

namespace Binary64

/-- The fraction that a finite number is, its sign apart. -/
def ratio (biased : Fin 2047) (fraction : Fin fractionCount) : Nat × Nat := scaled (significand biased fraction) 1 (scale biased)

/-- The exponent of the first decimal digit of a positive fraction. -/
def floorLog10 (num den : Nat) : Int :=
  if den ≤ num then (Text.ofNat (num / den)).length - 1
  else
    let zeros := (Text.ofNat (den / num)).length - 1
    if den ≤ num * Nat.pow 10 zeros then -(zeros : Int) else -(zeros : Int) - 1

/-- A positive fraction rounded to so many digits, one at least, as the digits and the exponent of the first. -/
def roundedDigits (count num den : Nat) : Text × Int :=
  let exponent := floorLog10 num den
  let power : Int := exponent - (count - 1 : Nat)
  let digits := roundHalfEven (num * Nat.pow 10 (-power).toNat) (den * Nat.pow 10 power.toNat)
  if digits < Nat.pow 10 count then (Text.ofNat digits, exponent) else (Text.ofNat (digits / 10), exponent + 1)

/-- The digits of a fraction, which is zero or positive, and the exponent of the first. -/
def digitsOf (count num den : Nat) : Text × Int :=
  if num = 0 then (List.replicate count (CodePoint.ofChar '0'), 0) else roundedDigits count num den

/-- Digits behind a point, with the point when there are any or when it has to stand. -/
def behindPoint (point : Bool) (digits : Text) : Text := if digits = [] ∧ !point then [] else '.' :: digits

/-- A text of digits without the zeros at its end. -/
def dropZeros (digits : Text) : Text := (digits.reverse.dropWhile fun (c : CodePoint) => decide (c = '0')).reverse

/-- A fraction rounded to so many places. -/
def fixedText (point : Bool) (places num den : Nat) : Text :=
  let digits := Text.padded (places + 1) (roundHalfEven (num * Nat.pow 10 places) den)
  let whole := digits.length - places
  digits.take whole ++ behindPoint point (digits.drop whole)

/-- An exponent, with its sign and two digits or more. -/
def exponentText (exponent : Int) : Text := (if exponent < 0 then "e-" else "e+") ++ Text.padded 2 exponent.natAbs

/-- A fraction rounded to one digit and so many places, with an exponent. -/
def scientificText (point : Bool) (places num den : Nat) : Text :=
  let (digits, exponent) := digitsOf (places + 1) num den
  digits.take 1 ++ (behindPoint point (digits.drop 1) ++ exponentText exponent)

/-- A fraction rounded to so many digits, one at least, with an exponent where it is far from zero. -/
def generalText (point : Bool) (count num den : Nat) : Text :=
  let count := max count 1
  let (digits, exponent) := digitsOf count num den
  let shown (fraction : Text) : Text := behindPoint point (if point then fraction else dropZeros fraction)
  if exponent < -4 ∨ (count : Int) ≤ exponent then
    digits.take 1 ++ (shown (digits.drop 1) ++ exponentText exponent)
  else if exponent < 0 then '0' :: shown (List.replicate (-exponent - 1).toNat (CodePoint.ofChar '0') ++ digits)
  else digits.take (exponent.toNat + 1) ++ shown (digits.drop (exponent.toNat + 1))

end Binary64

end Admission
