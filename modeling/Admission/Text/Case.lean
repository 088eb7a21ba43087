import Admission.Text.CodePoint
import Admission.Text.CaseTable

/-!
# Letter case

Lower and upper case of single code points and of texts, and equality without regard to case. The case of a text is not
that of its code points one by one: some upper case forms are longer, and the lower case of a capital sigma depends on
what stands around it.
-/

namespace Admission

namespace CodePoint

/-- The lower case of one code point, alone. -/
def lower (c : CodePoint) : CodePoint := ofNat (CaseRun.apply CaseRun.lower c.val)

/-- The upper case of one code point, as a text. -/
def upperForm (c : CodePoint) : Text :=
  match longUpper.lookup c.val with
  | some form => form.map ofNat
  | none => [ofNat (CaseRun.apply CaseRun.upper c.val)]

/-- Whether one of the case mappings changes a code point. -/
def hasCase (c : CodePoint) : Bool := !decide (c.lower = c ∧ c.upperForm.head? = some c)

/-- Whether a code point of a pattern admits a code point of a text when letter case is disregarded: their lower case
forms are equal or fellows. A code point without case admits only itself. -/
def admits (pattern c : CodePoint) : Bool :=
  if pattern.hasCase then
    decide (c.lower = pattern.lower) || ((caseFellows.lookup pattern.lower.val).getD []).contains c.lower.val
  else decide (c = pattern)

/-- The capital sigma, whose lower case has two forms. -/
def capitalSigma : CodePoint := ⟨0x03A3, by decide⟩

/-- The capital I with a dot above, whose lower case is two code points long. -/
def dottedCapitalI : CodePoint := ⟨0x0130, by decide⟩

/-- A sigma closes a word when a cased code point stands before it and none after it, ignorable ones left out. The code
points before it come nearest first. -/
def closesWord (before after : Text) : Bool :=
  let nearest (s : Text) : Bool :=
    match s.dropWhile (fun c => caseIgnorable.has c.val) with
    | [] => false
    | c :: _ => cased.has c.val
  nearest before && !nearest after

end CodePoint

namespace Text

/-- The lower case of the rest of a text; `before` holds what has been passed, nearest first. -/
def lowerAfter (before : Text) : Text → Text
  | [] => []
  | c :: rest =>
    let form : Text :=
      if c = CodePoint.capitalSigma then [CodePoint.ofNat (if CodePoint.closesWord before rest then 0x03C2 else 0x03C3)]
      else if c = CodePoint.dottedCapitalI then [CodePoint.ofNat 0x0069, CodePoint.ofNat 0x0307]
      else [c.lower]
    form ++ lowerAfter (c :: before) rest

/-- The lower case of a text. -/
def lower (s : Text) : Text := lowerAfter [] s

/-- The upper case of a text. -/
def upper (s : Text) : Text := s.flatMap CodePoint.upperForm

end Text

end Admission
