import Admission.Text.Integer

/-!
# Calendar dates

Dates of the Gregorian calendar, carried back before its beginning, with years from 1 to 9999. A date is valid by its
type; `Date.ofParts?` is where validity is decided.
-/

namespace Admission

/-- A year with a day more in February. -/
def isLeapYear (year : Nat) : Bool := decide (year % 4 = 0 ∧ (year % 100 ≠ 0 ∨ year % 400 = 0))

/-- The number of days of a month; a number that is no month has none. -/
def daysInMonth (year month : Nat) : Nat :=
  match month with
  | 2 => if isLeapYear year then 29 else 28
  | 1 | 3 | 5 | 7 | 8 | 10 | 12 => 31
  | 4 | 6 | 9 | 11 => 30
  | _ => 0

/-- A day of the calendar. -/
structure Date where
  year : Nat
  month : Nat
  day : Nat
  year_mem : 1 ≤ year ∧ year ≤ 9999
  month_mem : 1 ≤ month ∧ month ≤ 12
  day_mem : 1 ≤ day ∧ day ≤ daysInMonth year month
  deriving DecidableEq

namespace Date

/-- The date of a year, a month and a day, when there is one. -/
def ofParts? (year month day : Nat) : Option Date :=
  if h : (1 ≤ year ∧ year ≤ 9999) ∧ (1 ≤ month ∧ month ≤ 12) ∧ 1 ≤ day ∧ day ≤ daysInMonth year month then
    some ⟨year, month, day, h.1, h.2.1, h.2.2⟩
  else none

/-- The date of three numbers is the one that has them as its parts. -/
theorem ofParts?_eq_some_iff (year month day : Nat) (d : Date) :
    ofParts? year month day = some d ↔ d.year = year ∧ d.month = month ∧ d.day = day := by
  unfold ofParts?
  constructor
  · intro h
    split at h
    · cases h
      exact ⟨rfl, rfl, rfl⟩
    · cases h
  · rintro ⟨rfl, rfl, rfl⟩
    rw [dif_pos ⟨d.year_mem, d.month_mem, d.day_mem⟩]

/-- A date as year, month and day with hyphens, in four, two and two digits. -/
def iso (d : Date) : Text :=
  Text.concat [Text.padded 4 d.year, "-", Text.padded 2 d.month, "-", Text.padded 2 d.day]

end Date

/-- The names of the months, in order. -/
def monthNames : List Text :=
  ["january", "february", "march", "april", "may", "june", "july", "august", "september", "october", "november",
    "december"]

end Admission
