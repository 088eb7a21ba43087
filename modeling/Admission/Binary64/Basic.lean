/-!
# Binary floating point numbers

The numbers of the 64-bit binary format, as exact values. A finite number is a sign, a biased exponent and a fraction, so
equal numbers are equal terms, and the two zeros differ. Reading a decimal rounds it to the nearest number, a tie to the
one whose last bit is zero.
-/

namespace Admission

/-- The number of fractions that a finite number can have. -/
abbrev fractionCount : Nat := Nat.pow 2 52

/-- A number of the 64-bit binary format; there is one not-a-number. -/
inductive Binary64 where
  | nan
  | infinite (negative : Bool)
  | finite (negative : Bool) (biased : Fin 2047) (fraction : Fin fractionCount)
  deriving DecidableEq

namespace Binary64

/-- The whole number that a finite number is a scaled form of. -/
def significand (biased : Fin 2047) (fraction : Fin fractionCount) : Nat :=
  if biased.val = 0 then fraction.val else fractionCount + fraction.val

/-- The power of two by which the significand of a finite number is scaled. -/
def scale (biased : Fin 2047) : Int := if biased.val = 0 then -1074 else (biased.val : Int) - 1075

/-- The number at a place in the ascending order of the numbers that are not negative; the place behind the greatest
finite one, and every later place, holds the infinite one. -/
def atPlace (negative : Bool) (place : Nat) : Binary64 :=
  if h : place / fractionCount < 2047 then
    .finite negative ⟨place / fractionCount, h⟩ ⟨place % fractionCount, Nat.mod_lt _ (by decide)⟩
  else .infinite negative

/-- A fraction scaled by a power of two, as numerator and denominator. -/
def scaled (num den : Nat) (power : Int) : Nat × Nat := (num * Nat.pow 2 power.toNat, den * Nat.pow 2 (-power).toNat)

/-- The whole number nearest to a fraction; a tie goes to the even one. -/
def roundHalfEven (num den : Nat) : Nat :=
  let whole := num / den
  let rest := num % den
  if 2 * rest < den then whole
  else if den < 2 * rest then whole + 1
  else if whole % 2 = 0 then whole else whole + 1

/-- The greatest power of two that is not above a positive fraction. -/
def floorLog2 (num den : Nat) : Int :=
  let guess : Int := (Nat.log2 num : Int) - (Nat.log2 den : Int)
  let (n, d) := scaled num den (-guess)
  if d ≤ n then guess else guess - 1

/-- The number nearest to a positive fraction: the significand has fifty-three bits, or fewer at the lower end of the
range. -/
def ofRatio (negative : Bool) (num den : Nat) : Binary64 :=
  let power : Int := max (-1074) (floorLog2 num den - 52)
  let (n, d) := scaled num den (-power)
  atPlace negative ((power + 1074).toNat * fractionCount + roundHalfEven n d)

/-- The number nearest to `digits * 10 ^ power`. A decimal that is far beyond the range is not computed. -/
def ofDecimal (negative : Bool) (digits : Nat) (power : Int) : Binary64 :=
  if digits = 0 then atPlace negative 0
  else
    let size : Int := (Nat.toDigits 10 digits).length + power
    if size > 310 then .infinite negative
    else if size < -330 then atPlace negative 0
    else ofRatio negative (digits * Nat.pow 10 power.toNat) (Nat.pow 10 (-power).toNat)

/-- A finite number. -/
def isFinite : Binary64 → Bool
  | .finite .. => true
  | _ => false

/-- A number above zero. -/
def isPositive : Binary64 → Bool
  | .nan => false
  | .infinite negative => !negative
  | .finite negative biased fraction => !negative && decide (0 < significand biased fraction)

/-- The whole part of a finite number, which is cut toward zero. -/
def truncate? : Binary64 → Option Int
  | .finite negative biased fraction =>
    let (n, d) := scaled (significand biased fraction) 1 (scale biased)
    some (if negative then -((n / d : Nat) : Int) else (n / d : Nat))
  | _ => none

/-- The value of a number that is whole. -/
def toInt? : Binary64 → Option Int
  | .finite negative biased fraction =>
    let (n, d) := scaled (significand biased fraction) 1 (scale biased)
    if n % d = 0 then some (if negative then -((n / d : Nat) : Int) else (n / d : Nat)) else none
  | _ => none

end Binary64

end Admission
