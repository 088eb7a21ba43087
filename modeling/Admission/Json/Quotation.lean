import Admission.Json.Error

/-!
# Strings of JSON

A string is first split into items, each a code point or a unit of an escape by number, and the items then give the text:
a high and a low surrogate that were escaped side by side are one code point, and a surrogate left over stays as it is.
-/

namespace Admission.Json

/-- A part of a string: a code point, written as itself or by an escape of one letter, or a unit escaped by its
number. -/
inductive StringItem where
  | plain (c : CodePoint)
  | unit (u : CodePoint)
  deriving DecidableEq

/-- The text of string items. -/
def StringItem.join : List StringItem → Text
  | [] => []
  | .plain c :: rest => c :: join rest
  | .unit high :: .unit low :: rest =>
    if high.isHighSurrogate && low.isLowSurrogate then CodePoint.joinSurrogates high low :: join rest
    else high :: join (.unit low :: rest)
  | .unit u :: rest => u :: join rest

/-- The code point that a letter behind a backslash stands for. -/
def letterEscape? (c : CodePoint) : Option CodePoint :=
  if c = '"' ∨ c = '\\' ∨ c = '/' then some c
  else if c = 'b' then some '\x08'
  else if c = 'f' then some '\x0c'
  else if c = 'n' then some '\n'
  else if c = 'r' then some '\r'
  else if c = 't' then some '\t'
  else none

/-- The unit that four hexadecimal digits denote. -/
def unit? (a b c d : CodePoint) : Option CodePoint := do
  let a ← a.hexDigit?
  let b ← b.hexDigit?
  let c ← c.hexDigit?
  let d ← d.hexDigit?
  return CodePoint.ofNat (a * 0x1000 + b * 0x100 + c * 0x10 + d)

/-- One item in front of those of the rest. -/
def consItem (item : StringItem) : Except Error (List StringItem × Text) → Except Error (List StringItem × Text)
  | .ok (items, rest) => .ok (item :: items, rest)
  | .error e => .error e

/-- The items of a string up to its closing quote, and the text behind the quote. `opening` is the text from the opening
quote on. An escape by number is read only if something stands behind its four digits. -/
def stringItems (opening : Text) : Text → Except Error (List StringItem × Text)
  | [] => .error (.problem .unterminatedString opening)
  | c :: rest =>
    if c = '"' then .ok ([], rest)
    else if c = '\\' then
      match rest with
      | [] => .error (.problem .unterminatedString opening)
      | e :: rest =>
        if e = 'u' then
          match rest with
          | h₁ :: h₂ :: h₃ :: h₄ :: next :: rest' =>
            match unit? h₁ h₂ h₃ h₄ with
            | some u => consItem (.unit u) (stringItems opening (next :: rest'))
            | none => .error (.problem .invalidUnicodeEscape (e :: rest))
          | _ => .error (.problem .invalidUnicodeEscape (e :: rest))
        else
          match letterEscape? e with
          | some p => consItem (.plain p) (stringItems opening rest)
          | none => .error (.problem .invalidEscape (c :: e :: rest))
    else if c.val ≤ 0x1F then .error (.problem .controlCharacter (c :: rest))
    else consItem (.plain c) (stringItems opening rest)

/-- The string that begins behind an opening quote, and the text behind its closing quote. -/
def readString (opening rest : Text) : Except Error (Text × Text) :=
  match stringItems opening rest with
  | .ok (items, rest) => .ok (StringItem.join items, rest)
  | .error e => .error e

end Admission.Json
