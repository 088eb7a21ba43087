import Admission.Text.Integer

/-!
# Why a text is not read as JSON

A syntax problem is kept with what was left of the text at its place, so that a reader needs no positions; line, column
and offset are worked out from that rest when the problem is told.
-/

namespace Admission.Json

/-- A way in which a text breaks the grammar. -/
inductive Problem where
  | byteOrderMark
  | expectingValue
  | expectingName
  | expectingColon
  | expectingComma
  | unterminatedString
  | controlCharacter
  | invalidEscape
  | invalidUnicodeEscape
  | extraData
  deriving DecidableEq

/-- What is told of a problem. -/
def Problem.text : Problem → Text
  | .byteOrderMark => "Unexpected UTF-8 BOM (decode using utf-8-sig)"
  | .expectingValue => "Expecting value"
  | .expectingName => "Expecting property name enclosed in double quotes"
  | .expectingColon => "Expecting ':' delimiter"
  | .expectingComma => "Expecting ',' delimiter"
  | .unterminatedString => "Unterminated string starting at"
  | .controlCharacter => "Invalid control character at"
  | .invalidEscape => "Invalid \\escape"
  | .invalidUnicodeEscape => "Invalid \\uXXXX escape"
  | .extraData => "Extra data"

/-- Why a text is not read: a syntax problem and the rest of the text from its place on, an integer with too many digits, a
number that is none or too great for a binary one, or too deep a nesting. -/
inductive Error where
  | problem (kind : Problem) (rest : Text)
  | tooManyDigits (count : Nat)
  | constant (token : Text)
  | outOfRange (token : Text)
  | tooDeep
  deriving DecidableEq

/-- The line of a place, counted from one, by the text before it. -/
def lineOf (before : Text) : Nat := before.count (CodePoint.ofChar '\n') + 1

/-- The column of a place, counted from one, by the text before it. -/
def columnOf (before : Text) : Nat := (before.reverse.takeWhile fun (c : CodePoint) => decide (c ≠ '\n')).length + 1

/-- A problem with its place in a text. -/
def Problem.at (kind : Problem) (text rest : Text) : Text :=
  let before := text.take (text.length - rest.length)
  Text.concat [kind.text, ": line ", Text.ofNat (lineOf before), " column ", Text.ofNat (columnOf before), " (char ",
    Text.ofNat before.length, ")"]

/-- What is told of an error in a text. -/
def Error.reason (text : Text) : Error → Text
  | .problem kind rest => kind.at text rest
  | .tooManyDigits count => Text.tooManyDigits count
  | .constant token => Text.concat [token, " is not valid JSON"]
  | .outOfRange token => Text.concat ["number out of range: ", token]
  | .tooDeep => "nesting too deep"

end Admission.Json
