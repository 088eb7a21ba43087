import Admission.Json.Reader

/-!
# The grammar of JSON

What a text of JSON is and what it means, told without a reader. Strings, numbers and values are relations between a text and
what it denotes (`Quotes`, `Numeral.Means`, `Denotes`); a list and an object are an opening, a sequence with commas, and a
closing. How deep brackets stand in one another is a property of any text, whether it is one of JSON or not (`nesting`).
-/

namespace Admission

namespace Json

/-- A text of white space only. -/
def IsSpace (s : Text) : Prop := ∀ c ∈ s, isSpace c = true

/-! ## Strings -/

/-- The code points that may stand alone behind a backslash, and those that they stand for. -/
def letterEscapes : List (CodePoint × CodePoint) :=
  [('"', '"'), ('\\', '\\'), ('/', '/'), ('b', '\x08'), ('f', '\x0c'), ('n', '\n'), ('r', '\r'), ('t', '\t')]

/-- A code point is a hexadecimal digit, in either letter case, of a value. -/
def IsHexDigit (c : CodePoint) (n : Nat) : Prop :=
  (n < 10 ∧ c.val = 0x30 + n) ∨ (10 ≤ n ∧ n < 16 ∧ (c.val = 0x37 + n ∨ c.val = 0x57 + n))

/-- Four hexadecimal digits spell a unit, the greatest digit first. -/
def SpellsUnit (a b c d u : CodePoint) : Prop :=
  ∃ i j k l, IsHexDigit a i ∧ IsHexDigit b j ∧ IsHexDigit c k ∧ IsHexDigit d l ∧
    u.val = ((i * 16 + j) * 16 + k) * 16 + l

/-- A backslash, the letter of an escape by number, and four code points. -/
def unitEscape (a b c d : CodePoint) : Text := ['\\', 'u', a, b, c, d]

/-- A text begins with the escape of the second half of a surrogate pair. -/
def BeginsWithLow (raw : Text) : Prop :=
  ∃ a b c d u rest, raw = unitEscape a b c d ++ rest ∧ SpellsUnit a b c d u ∧ u.isLowSurrogate = true

/-- What stands between the quotes of a string, and the text that it denotes. Two halves of a surrogate pair that are escaped side
by side denote one code point; a half without the other denotes itself. -/
inductive Quotes : Text → Text → Prop where
  | nil : Quotes [] []
  | plain {c : CodePoint} {raw s : Text} (hquote : c ≠ '"') (hslash : c ≠ '\\') (hcontrol : 0x1F < c.val)
      (h : Quotes raw s) : Quotes (c :: raw) (c :: s)
  | letter {e c : CodePoint} {raw s : Text} (he : (e, c) ∈ letterEscapes) (h : Quotes raw s) :
    Quotes (CodePoint.ofChar '\\' :: e :: raw) (c :: s)
  | pair {a b c d a' b' c' d' high low u : CodePoint} {raw s : Text} (hhigh : SpellsUnit a b c d high)
      (hlow : SpellsUnit a' b' c' d' low) (isHigh : high.isHighSurrogate = true) (isLow : low.isLowSurrogate = true)
      (hu : u.val = 0x10000 + (high.val - 0xD800) * 0x400 + (low.val - 0xDC00)) (h : Quotes raw s) :
    Quotes (unitEscape a b c d ++ (unitEscape a' b' c' d' ++ raw)) (u :: s)
  | lone {a b c d u : CodePoint} {raw s : Text} (hu : SpellsUnit a b c d u)
      (hlone : ¬ (u.isHighSurrogate = true ∧ BeginsWithLow raw)) (h : Quotes raw s) :
    Quotes (unitEscape a b c d ++ raw) (u :: s)

/-! ## Numbers -/

/-- A text of ASCII digits, at least one. -/
def IsDigits (s : Text) : Prop := s ≠ [] ∧ ∀ c ∈ s, c.isAsciiDigit = true

/-- The whole part of a number: a zero, or digits of which the first is no zero. -/
def IsWhole (s : Text) : Prop := s = "0" ∨ IsDigits s ∧ s.head? ≠ some (CodePoint.ofChar '0')

/-- The fraction of a number: nothing, or a point and digits. -/
def IsFraction (s : Text) : Prop := s = [] ∨ ∃ digits : Text, s = CodePoint.ofChar '.' :: digits ∧ IsDigits digits

/-- The exponent of a number: nothing, or a letter, a sign or none, and digits. -/
def IsExponent (s : Text) : Prop :=
  s = [] ∨ ∃ (e : CodePoint) (sign digits : Text), s = e :: (sign ++ digits) ∧ (e = 'e' ∨ e = 'E') ∧
    (sign = [] ∨ sign = "+" ∨ sign = "-") ∧ IsDigits digits

namespace Numeral

/-- A number that is written as the grammar has it. -/
structure IsWritten (n : Numeral) : Prop where
  whole : IsWhole n.whole
  fraction : IsFraction n.fraction
  exponent : IsExponent n.exponent

/-- A number without a fraction and without an exponent. -/
def IsInteger (n : Numeral) : Prop := n.fraction = [] ∧ n.exponent = []

/-- The binary number nearest to a number: its digits, scaled by its exponent less the length of its fraction. -/
def nearest (n : Numeral) : Binary64 :=
  Binary64.ofDecimal n.negative (digitsValue (n.whole ++ n.fraction.drop 1)) (n.power - (n.fraction.drop 1).length)

/-- The value that a number denotes. An integer has no more digits than one may have, and a number with a fraction or an
exponent is the finite binary number nearest to it. -/
inductive Means (n : Numeral) : Value → Prop where
  | int (hint : n.IsInteger) (hshort : n.whole.length ≤ digitLimit) :
    Means n (.int (signed n.negative (digitsValue n.whole)))
  | float (hfloat : ¬ n.IsInteger) (hfinite : n.nearest.isFinite = true) : Means n (.float n.nearest)

end Numeral

/-! ## Sequences -/

/-- Items with commas between them, at least one, with white space behind each item and in front of each but the first. -/
inductive Sequence {α : Type} (Item : Text → α → Prop) : Text → List α → Prop where
  | one {s after : Text} {x : α} (h : Item s x) (hafter : IsSpace after) : Sequence Item (s ++ after) [x]
  | cons {s after before rest : Text} {x : α} {xs : List α} (h : Item s x) (hafter : IsSpace after)
      (hbefore : IsSpace before) (hrest : Sequence Item rest xs) :
    Sequence Item (s ++ (after ++ (CodePoint.ofChar ',' :: (before ++ rest)))) (x :: xs)

/-- What stands between brackets: white space only, or white space and a sequence. -/
inductive Enclosed {α : Type} (Item : Text → α → Prop) : Text → List α → Prop where
  | none {s : Text} (h : IsSpace s) : Enclosed Item s []
  | some {before s : Text} {xs : List α} (hbefore : IsSpace before) (h : Sequence Item s xs) : Enclosed Item (before ++ s) xs

theorem Sequence.mono {α : Type} {Item Item' : Text → α → Prop} {s : Text} {xs : List α}
    (hitem : ∀ s x, Item s x → Item' s x) (h : Sequence Item s xs) : Sequence Item' s xs := by
  induction h with
  | one h hafter => exact .one (hitem _ _ h) hafter
  | cons h hafter hbefore _ ih => exact .cons (hitem _ _ h) hafter hbefore ih

theorem Enclosed.mono {α : Type} {Item Item' : Text → α → Prop} {s : Text} {xs : List α}
    (hitem : ∀ s x, Item s x → Item' s x) (h : Enclosed Item s xs) : Enclosed Item' s xs := by
  cases h with
  | none h => exact .none h
  | some hbefore h => exact .some hbefore (h.mono hitem)

/-- What holds of every item between brackets holds of each of them. -/
theorem Enclosed.forall_mem {α : Type} {p : α → Prop} {s : Text} {xs : List α} (h : Enclosed (fun _ x => p x) s xs) :
    ∀ x ∈ xs, p x := by
  have hsequence : ∀ {s xs}, Sequence (fun _ x => p x) s xs → ∀ x ∈ xs, p x := by
    intro s xs h
    induction h with
    | one h _ => exact List.forall_mem_singleton.2 h
    | cons h _ _ _ ih => exact List.forall_mem_cons.2 ⟨h, ih⟩
  cases h with
  | none _ => exact List.forall_mem_nil _
  | some _ h => exact hsequence h

/-- A member: a name in quotes, a colon with white space around it, and a value. -/
inductive Member (Item : Text → Value → Prop) : Text → Text × Value → Prop where
  | mk {raw name before after s : Text} {v : Value} (hname : Quotes raw name) (hbefore : IsSpace before)
      (hafter : IsSpace after) (h : Item s v) :
    Member Item (CodePoint.ofChar '"' :: (raw ++ (CodePoint.ofChar '"' :: (before ++ (CodePoint.ofChar ':' :: (after ++ s))))))
      (name, v)

/-- The object that a list of members denotes: every name once, in the place where it comes first, and under it the value that it
has last. -/
structure MembersMean (ms : List (Text × Value)) (object : Members) : Prop where
  names : object.names = (ms.map Prod.fst).eraseDups
  lookup : ∀ name, object.lookup name = ms.reverse.lookup name

/-! ## Values -/

/-- A text of JSON and the value that it denotes. -/
inductive Denotes : Text → Value → Prop where
  | null : Denotes "null" .null
  | bool (b : Bool) : Denotes (if b then "true" else "false") (.bool b)
  | number {n : Numeral} {v : Value} (hwritten : n.IsWritten) (hmeans : n.Means v) : Denotes n.token v
  | string {raw s : Text} (h : Quotes raw s) :
    Denotes (CodePoint.ofChar '"' :: (raw ++ [CodePoint.ofChar '"'])) (.str s)
  | list {s : Text} {items : List Value} (h : Enclosed Denotes s items) :
    Denotes (CodePoint.ofChar '[' :: (s ++ [CodePoint.ofChar ']'])) (.list items)
  | object {s : Text} {ms : List (Text × Value)} {object : Members} (h : Enclosed (Member Denotes) s ms)
      (hmean : MembersMean ms object) :
    Denotes (CodePoint.ofChar '\x7b' :: (s ++ [CodePoint.ofChar '\x7d'])) (.dict object)

/-- Induction on a text of JSON: what holds of the items of a list and of the values of an object's members, wherever these stand
between brackets, carries over to the list and to the object. -/
theorem Denotes.induct {P : Text → Value → Prop} (null : P "null" .null)
    (bool : ∀ b : Bool, P (if b then "true" else "false") (.bool b))
    (number : ∀ {n : Numeral} {v : Value}, n.IsWritten → n.Means v → P n.token v)
    (string : ∀ {raw s : Text}, Quotes raw s → P (CodePoint.ofChar '"' :: (raw ++ [CodePoint.ofChar '"'])) (.str s))
    (list : ∀ {s : Text} {items : List Value}, Enclosed P s items →
      P (CodePoint.ofChar '[' :: (s ++ [CodePoint.ofChar ']'])) (.list items))
    (object : ∀ {s : Text} {ms : List (Text × Value)} {object : Members}, Enclosed (Member P) s ms → MembersMean ms object →
      P (CodePoint.ofChar '\x7b' :: (s ++ [CodePoint.ofChar '\x7d'])) (.dict object))
    {s : Text} {v : Value} (h : Denotes s v) : P s v := by
  refine @Denotes.rec (fun s v _ => P s v) (fun s xs _ => Enclosed P s xs) (fun s ms _ => Enclosed (Member P) s ms)
    (fun s xs _ => Sequence P s xs) (fun s ms _ => Sequence (Member P) s ms) (fun s m _ => Member P s m)
    null bool (fun hwritten hmeans => number hwritten hmeans) (fun h => string h) (fun _ h => list h)
    (fun _ hmean h => object h hmean) ?_ ?_ ?_ ?_ ?_ ?_ ?_ ?_ ?_ s v h
  · intro s h
    exact .none h
  · intro before s xs hbefore _ h
    exact .some hbefore h
  · intro s h
    exact .none h
  · intro before s xs hbefore _ h
    exact .some hbefore h
  · intro s after x _ hafter h
    exact .one h hafter
  · intro s after before rest x xs _ hafter hbefore _ h hrest
    exact .cons h hafter hbefore hrest
  · intro s after x _ hafter h
    exact .one h hafter
  · intro s after before rest x xs _ hafter hbefore _ h hrest
    exact .cons h hafter hbefore hrest
  · intro raw name before after s v hname hbefore hafter _ h
    exact .mk hname hbefore hafter h

/-- A whole text of JSON: one value with nothing but white space around it. -/
def IsDocument (text : Text) (v : Value) : Prop :=
  ∃ before s after, text = before ++ (s ++ after) ∧ IsSpace before ∧ IsSpace after ∧ Denotes s v

/-! ## Nesting -/

/-- Where a place of a text stands: outside of strings, in a string, or behind a backslash in a string. -/
inductive Place where
  | outside
  | inside
  | escaped
  deriving DecidableEq

/-- How many brackets are open at a place of a text, and the most that were open at once up to it. -/
structure Brackets where
  level : Nat
  deepest : Nat
  place : Place
  deriving DecidableEq

/-- An opening bracket. -/
def isOpening (c : CodePoint) : Bool := decide (c = '[' ∨ c = '\x7b')

/-- A closing bracket. -/
def isClosing (c : CodePoint) : Bool := decide (c = ']' ∨ c = '\x7d')

/-- One code point more of a text. -/
def Brackets.step (b : Brackets) (c : CodePoint) : Brackets :=
  match b.place with
  | .outside =>
    if c = '"' then { b with place := .inside }
    else if isOpening c then { b with level := b.level + 1, deepest := max b.deepest (b.level + 1) }
    else if isClosing c then { b with level := b.level - 1 }
    else b
  | .inside =>
    if c = '"' then { b with place := .outside } else if c = '\\' then { b with place := .escaped } else b
  | .escaped => { b with place := .inside }

/-- How deep brackets stand in one another in a text, those in strings left out. -/
def nesting (s : Text) : Nat := (s.foldl Brackets.step ⟨0, 0, .outside⟩).deepest

end Json

end Admission
