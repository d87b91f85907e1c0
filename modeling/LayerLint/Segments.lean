/-!
# Segments of slash-separated text

Paths, packages and glob patterns are texts whose parts are separated by slashes. Cutting a text at
its slashes always gives at least one segment, and joining the segments gives the text back.
-/

namespace LayerLint
namespace Segments

/-- One part of a slash-separated text. -/
abbrev Segment := List Char

/-- The last segment of a text. -/
def last (text : List Char) : Segment :=
  (text.splitOn '/').getLastD []

/-- Cut a text at the last occurrence of a character, which is dropped. -/
def cutLast (mark : Char) : List Char → Option (List Char × List Char)
  | [] => none
  | c :: text =>
      match cutLast mark text with
      | some (before, after) => some (c :: before, after)
      | none => if c = mark then some ([], text) else none

end Segments
end LayerLint
