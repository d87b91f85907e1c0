/-!
# Line ends

A text file is read with one kind of line end: a carriage return, alone or before a line feed, counts
as a line feed.
-/

namespace LayerLint
namespace Text

/-- Turn every line end into a line feed. -/
def unifyNewlines : List Char → List Char
  | [] => []
  | '\r' :: '\n' :: rest => '\n' :: unifyNewlines rest
  | c :: rest => (if c = '\r' then '\n' else c) :: unifyNewlines rest

/-- Lines of a text joined with line feeds. -/
def joinLines (lines : List String) : String :=
  String.intercalate "\n" lines

end Text
end LayerLint
