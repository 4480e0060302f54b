/-! # Ranges of code points

A property of characters is a list of closed ranges, ascending and apart. -/

namespace LadderAtlas.Text

/-- Closed ranges of code points, ascending and apart. -/
abbrev Ranges := List (Nat × Nat)

/-- Whether a code point lies in one of the ranges. -/
def Ranges.has : Ranges → Nat → Bool
  | [], _ => false
  | r :: rs, n => if n < r.1 then false else n ≤ r.2 || has rs n

end LadderAtlas.Text
