/-!
# Code points and texts

A text is a list of code points. A code point may be a surrogate, because an escape in a payload can name one half of a
pair without the other, and such a half has to keep its place in lengths, positions and orders. `Char` leaves
surrogates out, so a text is not a `String`; every `String` is a text.
-/

namespace Admission

/-- A code point: a number below `0x110000`, surrogates included. -/
structure CodePoint where
  val : Nat
  val_lt : val < 0x110000
  deriving DecidableEq

namespace CodePoint

/-- The code point of a character. -/
@[coe] def ofChar (c : Char) : CodePoint :=
  ⟨c.toNat, by
    have h := c.valid
    simp only [UInt32.isValidChar, Nat.isValidChar] at h
    simp only [Char.toNat]
    omega⟩

instance : Coe Char CodePoint := ⟨ofChar⟩

/-- The code point that stands for what cannot be shown. -/
def replacement : CodePoint := ⟨0xFFFD, by decide⟩

/-- The code point of a number; a number that is none gives the replacement. -/
def ofNat (n : Nat) : CodePoint :=
  if h : n < 0x110000 then ⟨n, h⟩ else replacement

instance : Inhabited CodePoint := ⟨replacement⟩

def isHighSurrogate (c : CodePoint) : Bool := decide (0xD800 ≤ c.val ∧ c.val < 0xDC00)

def isLowSurrogate (c : CodePoint) : Bool := decide (0xDC00 ≤ c.val ∧ c.val < 0xE000)

/-- A surrogate, of either half. -/
def isSurrogate (c : CodePoint) : Bool := decide (0xD800 ≤ c.val ∧ c.val < 0xE000)

/-- The code point that a high and a low surrogate encode together. -/
def joinSurrogates (high low : CodePoint) : CodePoint :=
  ofNat (0x10000 + (high.val - 0xD800) * 0x400 + (low.val - 0xDC00))

/-- The value of an ASCII decimal digit. -/
def asciiDigit? (c : CodePoint) : Option Nat :=
  if 0x30 ≤ c.val ∧ c.val ≤ 0x39 then some (c.val - 0x30) else none

/-- An ASCII decimal digit. -/
def isAsciiDigit (c : CodePoint) : Bool := c.asciiDigit?.isSome

/-- The value of a hexadecimal digit, in either letter case. -/
def hexDigit? (c : CodePoint) : Option Nat :=
  if 0x30 ≤ c.val ∧ c.val ≤ 0x39 then some (c.val - 0x30)
  else if 0x41 ≤ c.val ∧ c.val ≤ 0x46 then some (c.val - 0x37)
  else if 0x61 ≤ c.val ∧ c.val ≤ 0x66 then some (c.val - 0x57)
  else none

end CodePoint

/-- A text: a list of code points. -/
abbrev Text := List CodePoint

namespace Text

/-- The text of a string. -/
@[coe] def ofString (s : String) : Text := s.toList.map CodePoint.ofChar

instance : Coe String Text := ⟨ofString⟩

/-- Several texts, one after another. -/
def concat (parts : List Text) : Text := parts.flatten

/-- A text does not stand behind another: the first code points in which they differ decide, and a text stands before its
own continuations. -/
def precedes : Text → Text → Bool
  | [], _ => true
  | _ :: _, [] => false
  | a :: as, b :: bs => if a = b then precedes as bs else decide (a.val < b.val)

/-- Texts in ascending order; equal texts keep their places. -/
def sorted (texts : List Text) : List Text := texts.mergeSort precedes

/-- Whether every code point of a text can be encoded: no surrogate stands in it. -/
def isWellFormed (s : Text) : Bool := s.all fun c => !c.isSurrogate

end Text

end Admission
