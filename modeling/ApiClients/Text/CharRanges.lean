/-!
# Ranges of characters

A property of characters as the ranges of code points that have it. The ranges ascend and do not
touch, so a search may stop at the first range that begins beyond the code point.
-/

namespace ApiClients.Text

/-- Ranges of code points, each from its first to its last, in ascending order. -/
abbrev CharRanges : Type := List (Nat × Nat)

/-- Whether one of the ranges holds the code point. -/
def CharRanges.covers : CharRanges → Nat → Bool
  | [], _ => false
  | (first, last) :: rest, n => first ≤ n && (n ≤ last || covers rest n)

end ApiClients.Text
