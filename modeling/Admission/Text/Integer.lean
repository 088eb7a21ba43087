import Admission.Text.Blank
import Admission.Text.DecimalDigit

/-!
# Integers in texts

Writing an integer in decimal digits, and reading one back from two notations. `readSigned` takes a sign and digits and
nothing else; `readLiteral` also takes white space around the number and single underscores between its digits. Both take
the digits of every script, and both refuse a number of more than `digitLimit` digits, however it would read. An integer of
more digits has a decimal text, but whoever writes for others refuses it as well (`Text.IsShort`).
-/

namespace Admission

/-- The greatest number of digits that a text may spend on one integer. -/
def digitLimit : Nat := 4300

/-- Why a text gives no integer. -/
inductive IntegerFault where
  | notInteger
  | tooManyDigits (count : Nat)
  deriving DecidableEq

namespace Text

/-- The decimal digits of a number. -/
def ofNat (n : Nat) : Text := (Nat.toDigits 10 n).map CodePoint.ofChar

/-- An integer in decimal digits, with a minus when it is negative. -/
def ofInt (n : Int) : Text := if n < 0 then '-' :: ofNat n.natAbs else ofNat n.natAbs

/-- A number in decimal digits, with zeros in front up to a width. -/
def padded (width n : Nat) : Text := List.replicate (width - (ofNat n).length) (CodePoint.ofChar '0') ++ ofNat n

/-- An integer is short when a text may spend its digits on it; a longer one is neither read nor written. -/
def IsShort (n : Int) : Prop := (ofNat n.natAbs).length ≤ digitLimit

instance (n : Int) : Decidable (IsShort n) := inferInstanceAs (Decidable (_ ≤ _))

/-- What is told of too long an integer; how long it is, when that is known. -/
def beyondDigitLimit (length : Text) : Text :=
  concat ["Exceeds the limit (", ofNat digitLimit, " digits) for integer string conversion", length,
    "; use sys.set_int_max_str_digits() to increase the limit"]

/-- Why too long an integer is not read. -/
def tooManyDigits (count : Nat) : Text := beyondDigitLimit (concat [": value has ", ofNat count, " digits"])

/-- Why too long an integer is not written. -/
def tooLong : Text := beyondDigitLimit []

end Text

/-- The number that decimal digits denote, the most significant first. -/
def ofDigits (digits : List Nat) : Nat := digits.foldl (fun n d => 10 * n + d) 0

/-- A number with a sign. -/
def signed (negative : Bool) (n : Nat) : Int := if negative then -(n : Int) else n

namespace Text

/-- The sign in front of a text, and the text behind it; without a sign the number is not negative. -/
def splitSign : Text → Bool × Text
  | [] => (false, [])
  | c :: rest => if c = '-' then (true, rest) else if c = '+' then (false, rest) else (false, c :: rest)

/-- The integer of one sign or none and one digit or more, with nothing around them. -/
def readSigned (s : Text) : Except IntegerFault Int :=
  let (negative, body) := splitSign s
  match body.mapM CodePoint.digit? with
  | none => .error .notInteger
  | some [] => .error .notInteger
  | some digits =>
    if digits.length > digitLimit then .error (.tooManyDigits digits.length)
    else .ok (signed negative (ofDigits digits))

/-- Underscores stand one by one between digits: none first, none last, no two together. -/
def underscoresApart : Text → Bool
  | [] => true
  | [c] => decide (c ≠ '_')
  | c :: d :: rest => !(decide (c = '_') && decide (d = '_')) && underscoresApart (d :: rest)

/-- The integer of a sign or none and digits, which single underscores may separate, with white space around. What stands
behind the digits is looked at after they have been counted. -/
def readLiteral (s : Text) : Except IntegerFault Int :=
  let (negative, body) := splitSign (s.trim CodePoint.isWhiteSpace)
  let number := body.takeWhile fun (c : CodePoint) => c.isDigit || decide (c = '_')
  let digits := number.filterMap CodePoint.digit?
  if number.head? = some (CodePoint.ofChar '_') || !underscoresApart number then .error .notInteger
  else if digits.length > digitLimit then .error (.tooManyDigits digits.length)
  else if digits.isEmpty || number.length != body.length then .error .notInteger
  else .ok (signed negative (ofDigits digits))

end Text

end Admission
