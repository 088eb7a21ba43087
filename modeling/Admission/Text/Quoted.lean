import Admission.Text.Printable

/-!
# Quoted texts

The form in which a text is quoted inside a message. It stands in single quotes, or in double quotes when it holds single
quotes and no double ones. The quote in use, the backslash and three control characters are written with a backslash and
a letter; every other code point that is not printable is written by its number, in as few of two, four or eight
hexadecimal digits as hold it.
-/

namespace Admission.Text

/-- The hexadecimal digit of a number below sixteen, in lower case. -/
def hexDigit (n : Nat) : CodePoint := CodePoint.ofNat (if n < 10 then 0x30 + n else 0x57 + n)

/-- The last `width` hexadecimal digits of a number. -/
def hex : Nat → Nat → Text
  | 0, _ => []
  | width + 1, n => hex width (n / 16) ++ [hexDigit (n % 16)]

/-- A code point written by its number. -/
def numbered (c : CodePoint) : Text :=
  if c.val < 0x100 then "\\x" ++ hex 2 c.val
  else if c.val < 0x10000 then "\\u" ++ hex 4 c.val
  else "\\U" ++ hex 8 c.val

/-- A code point inside a quoted text. -/
def quotedCodePoint (quote c : CodePoint) : Text :=
  if c = quote ∨ c = '\\' then ['\\', c]
  else if c = '\n' then "\\n"
  else if c = '\r' then "\\r"
  else if c = '\t' then "\\t"
  else if c.isPrintable then [c]
  else numbered c

/-- The quote that surrounds a text. -/
def quoteFor (s : Text) : CodePoint := if s.contains '\'' && !s.contains '"' then '"' else '\''

/-- A text in quotes. -/
def quoted (s : Text) : Text := quoteFor s :: (s.flatMap (quotedCodePoint (quoteFor s)) ++ [quoteFor s])

end Admission.Text
