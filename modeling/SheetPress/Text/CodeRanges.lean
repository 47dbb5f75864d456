/-!
# Ranges of code points

A set of characters given as a sorted list of closed ranges of code points. `CodeRanges.contains`
stops at the first range that lies beyond the character, so the common characters, which stand at
the front, are found at once.
-/

namespace SheetPress

/-- Closed ranges of code points in increasing order. -/
abbrev CodeRanges := List (Nat × Nat)

/-- Whether a code point lies in one of the ranges. -/
def CodeRanges.contains : CodeRanges → Nat → Bool
  | [], _ => false
  | (first, last) :: rest, code =>
    if code < first then false
    else if code ≤ last then true
    else CodeRanges.contains rest code

end SheetPress
