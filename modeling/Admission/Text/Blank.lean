import Admission.Text.CodePoint
import Admission.Text.Ranges

/-!
# Blank texts and trimming

Two classes of white space are in use. The wide one, `isBlank`, decides whether a value is blank and what is stripped
from it; it adds the four information separators to the `White_Space` property of Unicode, which is the class
`isWhiteSpace`.
-/

namespace Admission

namespace CodePoint

/-- The ranges of blank code points. -/
def blanks : Ranges :=
  [(0x0009, 0x000D), (0x001C, 0x0020), (0x0085, 0x0085), (0x00A0, 0x00A0), (0x1680, 0x1680), (0x2000, 0x200A),
   (0x2028, 0x2029), (0x202F, 0x202F), (0x205F, 0x205F), (0x3000, 0x3000)]

/-- White space of any script, and the information separators. -/
def isBlank (c : CodePoint) : Bool := blanks.has c.val

/-- White space of any script. -/
def isWhiteSpace (c : CodePoint) : Bool := c.isBlank && !decide (0x1C ≤ c.val ∧ c.val ≤ 0x1F)

end CodePoint

namespace Text

/-- A text without the code points of a class at its two ends. -/
def trim (inClass : CodePoint → Bool) (s : Text) : Text :=
  ((s.dropWhile inClass).reverse.dropWhile inClass).reverse

/-- A text without the blanks at its two ends. -/
def strip (s : Text) : Text := s.trim CodePoint.isBlank

/-- A text of blanks only; the empty text is one. -/
def isBlank (s : Text) : Bool := s.all CodePoint.isBlank

theorem dropWhile_eq_nil_iff_all (inClass : CodePoint → Bool) (s : Text) :
    s.dropWhile inClass = [] ↔ s.all inClass = true := by
  induction s with
  | nil => simp
  | cons c rest ih => by_cases h : inClass c <;> simp [h, ih]

/-- Trimming leaves nothing exactly when nothing else is there. -/
theorem trim_eq_nil_iff (inClass : CodePoint → Bool) (s : Text) : s.trim inClass = [] ↔ s.all inClass = true := by
  rw [trim, List.reverse_eq_nil_iff, dropWhile_eq_nil_iff_all, List.all_reverse]
  induction s with
  | nil => simp
  | cons c rest ih =>
    by_cases h : inClass c
    · simpa [List.dropWhile_cons, h] using ih
    · simp [h]

/-- A text is blank exactly when stripping leaves nothing. -/
theorem strip_eq_nil_iff (s : Text) : s.strip = [] ↔ s.isBlank = true := trim_eq_nil_iff _ s

/-- The parts of a text between the occurrences of a separator; there is always one part more than separators. -/
def splitOn (separator : CodePoint) : Text → List Text
  | [] => [[]]
  | c :: rest =>
    match splitOn separator rest with
    | [] => [[c]]
    | part :: parts => if c = separator then [] :: part :: parts else (c :: part) :: parts

/-- Texts with a separator between each two neighbours. -/
def join (separator : Text) : List Text → Text
  | [] => []
  | [s] => s
  | s :: rest => s ++ separator ++ join separator rest

/-- A text has a part, the empty text as well. -/
theorem splitOn_ne_nil (separator : CodePoint) (s : Text) : splitOn separator s ≠ [] := by
  cases s with
  | nil => simp [splitOn]
  | cons c rest =>
    rw [splitOn]
    split
    · simp
    · split <;> simp

/-- The parts of a text, joined again, are the text. -/
theorem join_splitOn (separator : CodePoint) (s : Text) : join [separator] (splitOn separator s) = s := by
  induction s with
  | nil => simp [splitOn, join]
  | cons c rest ih =>
    rw [splitOn]
    split
    · next h => exact absurd h (splitOn_ne_nil separator rest)
    · next part parts h =>
      rw [h] at ih
      split
      · next hc => simp [join, ih, hc]
      · cases parts with
        | nil => simp_all [join]
        | cons q qs =>
          simp only [join] at ih ⊢
          simp [← ih]

end Text

end Admission
