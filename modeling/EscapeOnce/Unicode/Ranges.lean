/-!
# Ranges of code points

A property of characters is kept as the list of closed ranges of code points that have it,
ascending and apart.  A range may span the surrogates: no character has such a code point.
-/

namespace EscapeOnce.Unicode

/-- The code point `n` lies in one of the closed ranges. -/
def inRanges (ranges : List (Nat × Nat)) (n : Nat) : Bool :=
  ranges.any fun (first, last) => first ≤ n && n ≤ last

end EscapeOnce.Unicode
