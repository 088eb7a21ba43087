import Admission.Text.CodePoint

/-!
# Date patterns

A client writes a date pattern in letters: runs of `y`, `M` and `d` stand for parts of a date, text between apostrophes
stands for itself, and so does everything else. `pieces` takes a pattern apart, and `format` writes it with a
percent sign and a letter for each part; a percent sign that stands for itself is doubled.
-/

namespace Admission

/-- A part of a date, in one of its spellings. -/
inductive DatePart where
  | year
  | shortYear
  | monthName
  | shortMonthName
  | month
  | day
  deriving DecidableEq

/-- The letter of a part in a format. -/
def DatePart.letter : DatePart → CodePoint
  | .year => 'Y'
  | .shortYear => 'y'
  | .monthName => 'B'
  | .shortMonthName => 'b'
  | .month => 'm'
  | .day => 'd'

namespace DatePattern

/-- A code point of a pattern, by its role. -/
inductive Symbol where
  | y
  | m
  | d
  | apostrophe
  | other (c : CodePoint)

/-- The role of a code point. -/
def Symbol.ofCodePoint (c : CodePoint) : Symbol :=
  if c = 'y' then .y else if c = 'M' then .m else if c = 'd' then .d else if c = '\'' then .apostrophe else .other c

/-- The code point of a symbol. -/
def Symbol.codePoint : Symbol → CodePoint
  | .y => 'y'
  | .m => 'M'
  | .d => 'd'
  | .apostrophe => '\''
  | .other c => c

/-- Whether a symbol is the apostrophe. -/
def Symbol.isApostrophe : Symbol → Bool
  | .apostrophe => true
  | _ => false

/-- A piece of a pattern: a part of the date or a code point that stands for itself. -/
inductive Piece where
  | part (p : DatePart)
  | literal (c : CodePoint)
  deriving DecidableEq

/-- The pieces of the rest of a pattern, outside quotes (`false`) or between them (`true`). The longest run of a letter
counts, four letters of `y` or `M` and two of `d` at most; a single `y` stands for itself, and so does an apostrophe that
no other follows. -/
def piecesOf : Bool → List Symbol → List Piece
  | _, [] => []
  | true, .apostrophe :: rest => piecesOf false rest
  | true, s :: rest => .literal s.codePoint :: piecesOf true rest
  | false, .y :: .y :: .y :: .y :: rest => .part .year :: piecesOf false rest
  | false, .y :: .y :: rest => .part .shortYear :: piecesOf false rest
  | false, .m :: .m :: .m :: .m :: rest => .part .monthName :: piecesOf false rest
  | false, .m :: .m :: .m :: rest => .part .shortMonthName :: piecesOf false rest
  | false, .m :: .m :: rest => .part .month :: piecesOf false rest
  | false, .m :: rest => .part .month :: piecesOf false rest
  | false, .d :: .d :: rest => .part .day :: piecesOf false rest
  | false, .d :: rest => .part .day :: piecesOf false rest
  | false, .apostrophe :: rest =>
    if rest.any Symbol.isApostrophe then piecesOf true rest else .literal '\'' :: piecesOf false rest
  | false, s :: rest => .literal s.codePoint :: piecesOf false rest

/-- The pieces of a pattern. -/
def pieces (pattern : Text) : List Piece := piecesOf false (pattern.map Symbol.ofCodePoint)

/-- A piece in a format. -/
def Piece.format : Piece → Text
  | .part p => ['%', p.letter]
  | .literal c => if c = '%' then "%%" else [c]

/-- The format of a pattern. -/
def format (pattern : Text) : Text := (pieces pattern).flatMap Piece.format

/-- The parts of the date that a pattern names, in order. -/
def parts (pattern : Text) : List DatePart :=
  (pieces pattern).filterMap fun
    | .part p => some p
    | .literal _ => none

end DatePattern

end Admission
