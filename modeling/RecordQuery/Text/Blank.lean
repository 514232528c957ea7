import RecordQuery.Text.Ranges
/-!
White space.
-/

namespace RecordQuery.Text

/-- The characters that separate words, as closed ranges of code points in ascending order. -/
def blankRanges : List (Nat × Nat) := [
  (0x9, 0xD), (0x1C, 0x20), (0x85, 0x85), (0xA0, 0xA0), (0x1680, 0x1680), (0x2000, 0x200A),
  (0x2028, 0x2029), (0x202F, 0x202F), (0x205F, 0x205F), (0x3000, 0x3000)]

/-- Whether `c` is white space of any script. -/
def isBlank (c : Char) : Bool := inRanges blankRanges c.toNat

/-- Whether `c` is one of the six white-space characters of ASCII. -/
def isAsciiBlank (c : Char) : Bool := c == ' ' || decide (0x9 ≤ c.toNat ∧ c.toNat ≤ 0xD)

end RecordQuery.Text
