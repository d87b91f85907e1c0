import LayerLint.Segments
import LayerLint.Text.Lowercase
import LayerLint.Glob.Wildcard

/-!
# Glob patterns

A pattern selects packages whatever their case. A pattern without a slash is compared with the last
segment only. Any other pattern is compared segment by segment, and only a segment of two stars spans
several segments: any number of them, but at least one at the end of the pattern.
-/

namespace LayerLint
namespace Glob

open Segments

/-- The pattern segment that spans several segments. -/
def spanning : Segment := ['*', '*']

/-- Whether the segments of a pattern match all the given segments. -/
def matchSegments : List Segment → List Segment → Bool
  | [], segments => segments.isEmpty
  | pattern :: patterns, segments =>
      if pattern = spanning then
        if patterns.isEmpty then !segments.isEmpty
        else acceptsRest (matchSegments patterns) segments
      else
        match segments with
        | [] => false
        | segment :: rest => matchSegment pattern segment && matchSegments patterns rest

/-- Whether a lower-case pattern matches a lower-case candidate. -/
def matchLowered (candidate pattern : List Char) : Bool :=
  if pattern.contains '/' then matchSegments (pattern.splitOn '/') (candidate.splitOn '/')
  else matchSegment pattern (last candidate)

/-- Whether a pattern matches a candidate. -/
def isMatch (candidate pattern : String) : Bool :=
  matchLowered (Text.lowerChars candidate.toList) (Text.lowerChars pattern.toList)

end Glob
end LayerLint
