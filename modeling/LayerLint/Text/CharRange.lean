/-!
# Ranges of code points

A character class of the Unicode standard is written down as an ascending list of inclusive ranges
of code points.
-/

namespace LayerLint
namespace Text

/-- An ascending list of inclusive ranges of code points. -/
abbrev CharRanges := List (Nat × Nat)

/-- Whether a code point lies in one of the ranges. The ranges ascend, so the search stops at the
first one that starts above it. -/
def CharRanges.has : CharRanges → Nat → Bool
  | [], _ => false
  | (low, high) :: rest, code =>
      if code < low then false
      else if code ≤ high then true
      else CharRanges.has rest code

end Text
end LayerLint
