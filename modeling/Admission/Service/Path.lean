import Admission.Text.Blank
import Admission.Text.Utf8

/-!
# Paths

The path of a request is what stands before a question mark or a number sign in its target, taken from the root of the
service and without segments of dots. Its octets may be written as a percent sign and two hexadecimal digits, and they are
UTF-8; a percent sign that two digits do not follow stands for itself. The percent sign of such an octet may be written so
as well: octets are read twice.
-/

namespace Admission.Path

/-- The octets of a code point; what has none gives those of the replacement. -/
def octetsOf (c : CodePoint) : List UInt8 := (Utf8.encodeCodePoint? c).getD [0xEF, 0xBF, 0xBD]

/-- The octets of a text in which octets may be written as numbers. -/
def octets : Text → List UInt8
  | [] => []
  | c :: rest =>
    if c = '%' then
      match rest with
      | h :: l :: rest' =>
        match h.hexDigit?, l.hexDigit? with
        | some high, some low => .ofNat (16 * high + low) :: octets rest'
        | _, _ => octetsOf c ++ octets (h :: l :: rest')
      | behind => octetsOf c ++ octets behind
    else octetsOf c ++ octets rest

/-- A question mark or a number sign ends a path. -/
def isEnd (c : CodePoint) : Bool := decide (c = '?' ∨ c = '#')

/-- A text with its octets read. -/
def unescape (s : Text) : Text := Utf8.decode (octets s)

def isSlash (c : CodePoint) : Bool := decide (c = '/')

/-- A target without the authority in front of its path, which stands behind two slashes. -/
def dropAuthority (target : Text) : Text :=
  if (target.take 2).all isSlash ∧ 2 ≤ target.length then (target.drop 2).dropWhile fun c => !isSlash c else target

/-- A target taken from the root: one slash in front, however many it has. -/
def fromRoot (target : Text) : Text := '/' :: (dropAuthority target).dropWhile isSlash

/-- One segment more on a path: one dot adds nothing, and two dots take the last segment away, but never the root. -/
def step (passed : List Text) (segment : Text) : List Text :=
  if segment = Text.ofString "." then passed
  else if segment = Text.ofString ".." then if passed = [[]] then passed else passed.dropLast
  else passed ++ [segment]

/-- A path without segments of dots. -/
def dropDots (path : Text) : Text := Text.join ['/'] ((Text.splitOn '/' path).foldl step [])

/-- The path of a target as requested. -/
def ofTarget (target : Text) : Text :=
  unescape (unescape (dropDots (fromRoot (target.takeWhile fun c => !isEnd c))))

/-- A path as the log shows it: without line ends and tabs, and up to an ending that was written as a number. -/
def shown (path : Text) : Text :=
  (path.filter fun (c : CodePoint) => !decide (c = '\t' ∨ c = '\r' ∨ c = '\n')).takeWhile fun c => !isEnd c

/-- The segments of a path; a line feed at its end is passed over. -/
def segments (path : Text) : List Text :=
  Text.splitOn '/' (if path.getLast? = some (CodePoint.ofChar '\n') then path.dropLast else path)

/-- A path without slashes at its end. -/
def dropTrailingSlashes (path : Text) : Text :=
  (path.reverse.dropWhile isSlash).reverse

end Admission.Path
