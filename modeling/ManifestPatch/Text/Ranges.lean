/-!
# Sets of Characters Given by Ranges

Properties of characters that a standard fixes by data are kept as lists of inclusive ranges of
code points, in ascending order. `CharRanges.has` decides membership.
-/

namespace ManifestPatch.Text

/-- A **set of characters** as inclusive ranges of code points. -/
structure CharRanges where
  /-- The first and last code point of each range, in ascending order. -/
  spans : List (Nat × Nat)

namespace CharRanges

/-- Whether a character lies in one of the ranges. -/
def has (ranges : CharRanges) (c : Char) : Bool :=
  ranges.spans.any fun span => span.1 ≤ c.toNat && c.toNat ≤ span.2

end CharRanges

end ManifestPatch.Text
