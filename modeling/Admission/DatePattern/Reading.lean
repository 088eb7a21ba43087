import Admission.DatePattern.Fit

/-!
# Reading dates by a pattern

A text is a date if the way in which it fits the pattern reaches its end and the parts found make a date. Parts that a
pattern does not name are those of the first day of 1900, and of two spellings of a part the later one counts.
-/

namespace Admission.DatePattern

/-- The parts of a date that have been read so far. -/
structure Parts where
  year : Nat
  month : Nat
  day : Nat

/-- The year of two digits: the last third of the twentieth century, or the first two thirds of the twenty-first. -/
def centuryOf (n : Nat) : Nat := if n ≤ 68 then 2000 + n else 1900 + n

/-- The parts with one more part read; a later part replaces an earlier one. -/
def Parts.with (parts : Parts) (p : DatePart) (n : Nat) : Parts :=
  match p with
  | .year => { parts with year := n }
  | .shortYear => { parts with year := centuryOf n }
  | .month | .monthName | .shortMonthName => { parts with month := n }
  | .day => { parts with day := n }

/-- The parts found, over the first day of 1900; none when one of them has no number. -/
def Parts.ofFound : List Found → Option Parts
  | found => found.foldl (fun parts f => parts.bind fun ps => f.2.map fun n => ps.with f.1 n) (some ⟨1900, 1, 1⟩)

/-- Why a text is not read as a date. -/
inductive ReadingFault where
  | repeatedPart
  | unreadable
  deriving DecidableEq

/-- The date that a text spells by a pattern. A pattern that names one spelling of a part twice reads nothing. -/
def read (pattern text : Text) : Except ReadingFault Date :=
  if ¬ (parts pattern).Nodup then .error .repeatedPart
  else
    match firstFit (elements (pieces pattern)) text with
    | some (found, []) =>
      match (Parts.ofFound found).bind fun ps => Date.ofParts? ps.year ps.month ps.day with
      | some d => .ok d
      | none => .error .unreadable
    | _ => .error .unreadable

end Admission.DatePattern
