import Admission.Text.CodePoint

/-!
# UTF-8

Octets to code points and back. `scan` reads octets from the left; where they are not well formed it notes a fault for
the longest start of a character it has seen and goes on behind it. `decode?` accepts octets without a fault, `decode`
puts the replacement where a fault is, and `encode?` refuses surrogates.
-/

namespace Admission.Utf8

/-- An octet that continues a character. -/
def isTail (b : UInt8) : Bool := decide (0x80 ≤ b ∧ b ≤ 0xBF)

/-- The second octets that may follow the first octet of a character of three octets: no overlong form, no surrogate. -/
def mayFollowInThree (first second : UInt8) : Bool :=
  decide ((if first = 0xE0 then 0xA0 else 0x80) ≤ second ∧ second ≤ (if first = 0xED then 0x9F else 0xBF))

/-- The second octets that may follow the first octet of a character of four octets: no overlong form, and nothing above
the last code point. -/
def mayFollowInFour (first second : UInt8) : Bool :=
  decide ((if first = 0xF0 then 0x90 else 0x80) ≤ second ∧ second ≤ (if first = 0xF4 then 0x8F else 0xBF))

/-- The six bits that a continuing octet carries. -/
def tailBits (b : UInt8) : Nat := b.toNat % 0x40

/-- The characters of an octet sequence, `none` for each fault. -/
def scan : List UInt8 → List (Option CodePoint)
  | [] => []
  | a :: rest =>
    if a < 0x80 then some (.ofNat a.toNat) :: scan rest
    else if 0xC2 ≤ a ∧ a ≤ 0xDF then
      match rest with
      | [] => [none]
      | b :: rest₂ =>
        if isTail b then some (.ofNat (a.toNat % 0x20 * 0x40 + tailBits b)) :: scan rest₂
        else none :: scan (b :: rest₂)
    else if 0xE0 ≤ a ∧ a ≤ 0xEF then
      match rest with
      | [] => [none]
      | b :: rest₂ =>
        if mayFollowInThree a b then
          match rest₂ with
          | [] => [none]
          | c :: rest₃ =>
            if isTail c then
              some (.ofNat (a.toNat % 0x10 * 0x1000 + tailBits b * 0x40 + tailBits c)) :: scan rest₃
            else none :: scan (c :: rest₃)
        else none :: scan (b :: rest₂)
    else if 0xF0 ≤ a ∧ a ≤ 0xF4 then
      match rest with
      | [] => [none]
      | b :: rest₂ =>
        if mayFollowInFour a b then
          match rest₂ with
          | [] => [none]
          | c :: rest₃ =>
            if isTail c then
              match rest₃ with
              | [] => [none]
              | d :: rest₄ =>
                if isTail d then
                  some (.ofNat (a.toNat % 0x08 * 0x40000 + tailBits b * 0x1000 + tailBits c * 0x40 + tailBits d)) ::
                    scan rest₄
                else none :: scan (d :: rest₄)
            else none :: scan (c :: rest₃)
        else none :: scan (b :: rest₂)
    else none :: scan rest

/-- The text of well-formed octets. -/
def decode? (octets : List UInt8) : Option Text := (scan octets).mapM id

/-- The text of any octets, with the replacement at every fault. -/
def decode (octets : List UInt8) : Text := (scan octets).map (·.getD CodePoint.replacement)

/-- The octets of a code point; a surrogate has none. -/
def encodeCodePoint? (c : CodePoint) : Option (List UInt8) :=
  let n := c.val
  let tail (n : Nat) : UInt8 := .ofNat (0x80 + n % 0x40)
  if n < 0x80 then some [.ofNat n]
  else if n < 0x800 then some [.ofNat (0xC0 + n / 0x40), tail n]
  else if c.isSurrogate then none
  else if n < 0x10000 then some [.ofNat (0xE0 + n / 0x1000), tail (n / 0x40), tail n]
  else some [.ofNat (0xF0 + n / 0x40000), tail (n / 0x1000), tail (n / 0x40), tail n]

/-- The octets of a text, when it holds no surrogate. -/
def encode? (s : Text) : Option (List UInt8) := (s.mapM encodeCodePoint?).map List.flatten

end Admission.Utf8
