import Admission.Binary64.Rounded
import Admission.Value.Display

/-!
# Directives of message templates

A directive of a template says how one argument is written. Its letter names the form: a text as a reader sees it, a literal,
a whole number to a base, a binary number with so many digits, or one code point. In front of the letter there may be
flags, a width and a precision. `Directive.write` gives the form of an argument and lays it out in the width.
-/

namespace Admission.Log

/-- Why a template cannot be filled. -/
inductive TemplateFault where
  | tooFewArguments
  | tooManyArguments
  | noMapping
  | incompleteKey
  | absentKey (key : Text)
  | keyOfList
  | starNotInteger
  | starBeyondMachine (size : Text)
  | widthTooBig
  | precisionTooBig
  | incomplete
  | unknownLetter (c : CodePoint) (index : Nat)
  | notANumber (letter : CodePoint) (kind : Text)
  | notAnInteger (letter : CodePoint) (kind : Text)
  | nanAsWhole
  | infinityAsWhole
  | notReal (kind : Text)
  | beyondBinary
  | notACharacter
  | beyondCodePoints
  | unwritable (cause : Unwritable)
  deriving DecidableEq

/-- A code point inside the report of a letter that is unknown. -/
def shownLetter (c : CodePoint) : CodePoint := if 31 ≤ c.val ∧ c.val < 127 then c else '?'

/-- The digits of a number to a base of sixteen at most. -/
def digitsTo (base n : Nat) : Text := (Nat.toDigits base n).map CodePoint.ofChar

/-- What is told of a template that cannot be filled. -/
def TemplateFault.message? : TemplateFault → Option Text
  | .tooFewArguments => some "not enough arguments for format string"
  | .tooManyArguments => some "not all arguments converted during string formatting"
  | .noMapping => some "format requires a mapping"
  | .incompleteKey => some "incomplete format key"
  | .absentKey key => some key.quoted
  | .keyOfList => some "list indices must be integers or slices, not str"
  | .starNotInteger => some "* wants int"
  | .starBeyondMachine size => some ("Python int too large to convert to C " ++ size)
  | .widthTooBig => some "width too big"
  | .precisionTooBig => some "precision too big"
  | .incomplete => some "incomplete format"
  | .unknownLetter c index =>
    some (Text.concat ["unsupported format character '", [shownLetter c], "' (0x", digitsTo 16 c.val, ") at index ",
      Text.ofNat index])
  | .notANumber letter kind => some (Text.concat ["%", [letter], " format: a real number is required, not ", kind])
  | .notAnInteger letter kind => some (Text.concat ["%", [letter], " format: an integer is required, not ", kind])
  | .nanAsWhole => some "cannot convert float NaN to integer"
  | .infinityAsWhole => some "cannot convert float infinity to integer"
  | .notReal kind => some (Text.concat ["must be real number, not ", kind])
  | .beyondBinary => some "int too large to convert to float"
  | .notACharacter => some "%c requires int or char"
  | .beyondCodePoints => some "%c arg not in range(0x110000)"
  | .unwritable cause => cause.message?

/-! ## Forms -/

/-- How the digits of a binary number are laid out. -/
inductive RealForm where
  | scientific
  | fixed
  | general
  deriving DecidableEq

/-- The form in which an argument is written. -/
inductive Conversion where
  | display
  | literal
  | asciiLiteral
  | whole
  | digits (base : Nat) (capital : Bool)
  | real (form : RealForm) (capital : Bool)
  | character
  deriving DecidableEq

/-- The letters of the forms. -/
def conversions : List (Text × Conversion) :=
  [("s", .display), ("r", .literal), ("a", .asciiLiteral), ("d", .whole), ("i", .whole), ("u", .whole),
    ("o", .digits 8 false), ("x", .digits 16 false), ("X", .digits 16 true), ("e", .real .scientific false),
    ("E", .real .scientific true), ("f", .real .fixed false), ("F", .real .fixed true), ("g", .real .general false),
    ("G", .real .general true), ("c", .character)]

/-- The form that a letter names. -/
def Conversion.ofLetter? (c : CodePoint) : Option Conversion := conversions.lookup [c]

/-- What stands in front of the letter of a directive. -/
structure Directive where
  left : Bool := false
  signed : Bool := false
  spaced : Bool := false
  alternate : Bool := false
  zeros : Bool := false
  width : Option Nat := none
  precision : Option Nat := none

/-- A directive with one flag more, when a code point is a flag. -/
def Directive.flag? (d : Directive) (c : CodePoint) : Option Directive :=
  if c = '-' then some { d with left := true }
  else if c = '+' then some { d with signed := true }
  else if c = ' ' then some { d with spaced := true }
  else if c = '#' then some { d with alternate := true }
  else if c = '0' then some { d with zeros := true }
  else none

/-- A text in capital letters, where it has small ASCII ones. -/
def capitals (s : Text) : Text :=
  s.map fun c => if 0x61 ≤ c.val ∧ c.val ≤ 0x7A then CodePoint.ofNat (c.val - 0x20) else c

/-- A value as a whole number; a binary number is cut toward zero. -/
def wholeNumber (letter : CodePoint) : Value → Except TemplateFault Int
  | .int n => .ok n
  | .bool b => .ok (if b then 1 else 0)
  | .float x =>
    match x.truncate? with
    | some n => .ok n
    | none => .error (if x = .nan then .nanAsWhole else .infinityAsWhole)
  | v => .error (.notANumber letter v.kindName)

/-- A value as an integer; a binary number is none. -/
def integer (letter : CodePoint) : Value → Except TemplateFault Int
  | .int n => .ok n
  | .bool b => .ok (if b then 1 else 0)
  | v => .error (.notAnInteger letter v.kindName)

/-- A value as a binary number; an integer is rounded to one. -/
def binaryNumber : Value → Except TemplateFault Binary64
  | .float x => .ok x
  | .bool b => .ok (Binary64.ofDecimal false (if b then 1 else 0) 0)
  | .int n =>
    let x := Binary64.ofDecimal (decide (n < 0)) n.natAbs 0
    if x.isFinite then .ok x else .error .beyondBinary
  | v => .error (.notReal v.kindName)

/-- A value as a code point, which is given by its number or as a text of it. -/
def character : Value → Except TemplateFault CodePoint
  | .str [c] => .ok c
  | .int n => if h : 0 ≤ n ∧ n < 0x110000 then .ok ⟨n.toNat, by omega⟩ else .error .beyondCodePoints
  | .bool b => .ok (CodePoint.ofNat (if b then 1 else 0))
  | _ => .error .notACharacter

/-- What is put in front of the digits to a base, where it is asked for. -/
def baseMark (alternate : Bool) (base : Nat) : Text :=
  if !alternate then [] else if base = 8 then "0o" else "0x"

/-- An integer in digits, so many at least, with a minus and the mark of its base in front. -/
def integerText (mark : Text) (least : Nat) (base : Nat) (n : Int) : Text :=
  let digits := digitsTo base n.natAbs
  (if n < 0 then "-" else "") ++ (mark ++ (List.replicate (least - digits.length) (CodePoint.ofChar '0') ++ digits))

/-- A binary number with so many places or digits. -/
def realText (form : RealForm) (point : Bool) (precision : Nat) : Binary64 → Text
  | .nan => "nan"
  | .infinite negative => Binary64.signText negative ++ "inf"
  | .finite negative biased fraction =>
    let (num, den) := Binary64.ratio biased fraction
    Binary64.signText negative ++
      match form with
      | .scientific => Binary64.scientificText point precision num den
      | .fixed => Binary64.fixedText point precision num den
      | .general => Binary64.generalText point precision num den

/-- A text with the code points that are not ASCII written by their numbers. -/
def asciiText (s : Text) : Text := s.flatMap fun c => if c.val < 0x80 then [c] else Text.numbered c

namespace Directive

/-- The form of an argument, before it is laid out. -/
def form (d : Directive) (letter : CodePoint) (v : Value) : Conversion → Except TemplateFault Text
  | .display => v.display?.mapError .unwritable
  | .literal => v.literal?.mapError .unwritable
  | .asciiLiteral => (v.literal?.map asciiText).mapError .unwritable
  | .whole => do
    let n ← wholeNumber letter v
    if Text.IsShort n then return integerText [] (d.precision.getD 0) 10 n else throw (.unwritable .longInteger)
  | .digits base capital => do
    let n ← integer letter v
    let shown := integerText (baseMark d.alternate base) (d.precision.getD 0) base n
    return if capital then capitals shown else shown
  | .real real capital => do
    let x ← binaryNumber v
    let shown := realText real d.alternate (d.precision.getD 6) x
    return if capital then capitals shown else shown
  | .character => do
    let c ← character v
    return [c]

/-- The sign of a number: its own one, or the one that is asked for where it has none; and the text behind its own one. -/
def splitSign (d : Directive) (s : Text) : Text × Text :=
  match s with
  | [] => ([], [])
  | c :: rest =>
    if c = '-' ∨ c = '+' then ([c], rest)
    else if d.signed then ("+", c :: rest)
    else if d.spaced then (" ", c :: rest)
    else ([], c :: rest)

/-- So many blanks or zeros. -/
def fill (c : Char) (n : Nat) : Text := List.replicate n (CodePoint.ofChar c)

/-- A text in the width of a directive. Zeros fill up numbers only, behind the sign and the mark of the base, and only from
the left. -/
def layOut (d : Directive) (s : Text) : Conversion → Text
  | .display | .literal | .asciiLiteral => plain (s.take (d.precision.getD s.length))
  | .character => plain s
  | .digits _ _ =>
    let (sign, body) := d.splitSign s
    let mark := if d.alternate then 2 else 0
    number (sign ++ body.take mark) (body.drop mark)
  | .whole | .real _ _ =>
    let (sign, body) := d.splitSign s
    number sign body
where
  room (s : Text) : Nat := d.width.getD 0 - s.length
  plain (s : Text) : Text := if d.left then s ++ fill ' ' (room s) else fill ' ' (room s) ++ s
  number (front digits : Text) : Text :=
    if d.zeros && !d.left then front ++ (fill '0' (room (front ++ digits)) ++ digits) else plain (front ++ digits)

/-- An argument as a directive with a letter writes it; the letter stands at an index of the template. -/
def write (d : Directive) (letter : CodePoint) (index : Nat) (v : Value) : Except TemplateFault Text :=
  match Conversion.ofLetter? letter with
  | none => .error (.unknownLetter letter index)
  | some conversion => do
    let shown ← d.form letter v conversion
    return d.layOut shown conversion

end Directive

end Admission.Log
