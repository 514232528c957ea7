/-!
Sets of characters given as ascending ranges of code points.
-/

namespace RecordQuery.Text

/-- Whether `n` lies in one of the closed ranges, which are in ascending order. -/
def inRanges : List (Nat × Nat) → Nat → Bool
  | [], _ => false
  | (first, last) :: rest, n => if n < first then false else n ≤ last || inRanges rest n

end RecordQuery.Text
