import Admission.Binary64.Basic
import Admission.Text.Integer

/-!
# The shortest decimal of a binary number

A finite number is written with the fewest digits that read back as it. The decimals that read back are those of an
interval around the number, which reaches half way to its two neighbours; the ends belong to it when the significand is
even. On ever finer decimal grids the two grid points next to the number are tried, and the first grid with a point in
the interval gives the digits.
-/

namespace Admission

/-- How a decimal is laid out: the exponents of the first digit that are written without an exponent, and the least
number of digits of an exponent. -/
structure DecimalLayout where
  least : Int
  most : Int
  exponentDigits : Nat

namespace Binary64

/-- A decimal `digits * 10 ^ power`. -/
structure Decimal where
  digits : Nat
  power : Int
  deriving DecidableEq

/-- The interval of a positive number, in quarters of its last place: the number, the two ends, and whether the ends
belong to it. The numbers below a power of two lie half as far apart as those above it. -/
structure Interval where
  low : Nat
  mid : Nat
  high : Nat
  closed : Bool

/-- The interval of the decimals that read back as a number. -/
def interval (biased : Fin 2047) (fraction : Fin fractionCount) : Interval :=
  let m := significand biased fraction
  { low := 4 * m - (if fraction.val = 0 ∧ 1 < biased.val then 1 else 2)
    mid := 4 * m
    high := 4 * m + 2
    closed := decide (m % 2 = 0) }

/-- A point lies in an interval; both are scaled to one unit, the interval by `unit`. -/
def Interval.has (i : Interval) (unit point : Nat) : Bool :=
  if i.closed then decide (i.low * unit ≤ point ∧ point ≤ i.high * unit)
  else decide (i.low * unit < point ∧ point < i.high * unit)

/-- The point of the decimal grid of a power of ten that lies in an interval; of two points the nearer, of two equally
near ones the even. Quarters of the last place are `2 ^ scale`. -/
def gridPoint? (i : Interval) (scale power : Int) : Option Nat :=
  let step := Nat.pow 10 power.toNat * Nat.pow 2 (-scale).toNat
  let unit := Nat.pow 10 (-power).toNat * Nat.pow 2 scale.toNat
  let below := i.mid * unit / step
  let fromBelow := i.mid * unit - below * step
  let toAbove := (below + 1) * step - i.mid * unit
  match i.has unit (below * step), i.has unit ((below + 1) * step) with
  | false, false => none
  | true, false => some below
  | false, true => some (below + 1)
  | true, true =>
    if fromBelow < toAbove then some below
    else if toAbove < fromBelow then some (below + 1)
    else if below % 2 = 0 then some below else some (below + 1)

/-- The first grid with a point in the interval, from a power of ten downward. -/
def coarsest (i : Interval) (scale : Int) : Nat → Int → Decimal
  | 0, power => ⟨0, power⟩
  | tries + 1, power =>
    match gridPoint? i scale power with
    | some digits => ⟨digits, power⟩
    | none => coarsest i scale tries (power - 1)

/-- The shortest decimal that reads back as a positive number, the nearest to it of those. The first grid tried is
coarser than the number is great, and seventeen digits always suffice. -/
def shortest (biased : Fin 2047) (fraction : Fin fractionCount) : Decimal :=
  let top : Int := scale biased + (Nat.log2 (significand biased fraction) : Int) + 1
  coarsest (interval biased fraction) (scale biased - 2) 20 (top * 30103 / 100000 + 1)

/-- Numbers are written without an exponent from a ten-thousandth up to sixteen digits; an exponent has two digits or
more. -/
def layout : DecimalLayout := { least := -4, most := 15, exponentDigits := 2 }

/-- A decimal laid out. A point always stands in a decimal without an exponent. -/
def Decimal.text (form : DecimalLayout) (d : Decimal) : Text :=
  let digits := Text.ofNat d.digits
  let zeros (n : Int) : Text := List.replicate n.toNat (CodePoint.ofChar '0')
  let point : Int := digits.length + d.power
  let exponent := point - 1
  if form.least ≤ exponent ∧ exponent ≤ form.most then
    if 0 ≤ d.power then digits ++ zeros d.power ++ ".0"
    else if 0 < point then digits.take point.toNat ++ "." ++ digits.drop point.toNat
    else "0." ++ zeros (-point) ++ digits
  else
    let fraction : Text := if digits.length ≤ 1 then [] else '.' :: digits.drop 1
    digits.take 1 ++ fraction ++ (if exponent < 0 then "e-" else "e+") ++
      Text.padded form.exponentDigits exponent.natAbs

/-- A sign, when the number has one. -/
def signText (negative : Bool) : Text := if negative then "-" else ""

/-- A number in the shortest form that reads back. -/
def text : Binary64 → Text
  | .nan => "nan"
  | .infinite negative => signText negative ++ "inf"
  | .finite negative biased fraction =>
    signText negative ++
      (if significand biased fraction = 0 then Decimal.text layout ⟨0, 0⟩
       else Decimal.text layout (shortest biased fraction))

end Binary64

end Admission
