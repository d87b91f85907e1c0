import LayerLint.Segments

/-!
# Normal forms of paths

Backslashes count as slashes, empty and single-dot segments are dropped, and a double-dot segment
cancels the segment before it. At the root a double dot disappears, and at the start of a relative
path it stays. Two leading slashes are kept as they are, and three or more count as one.
-/

namespace LayerLint
namespace NormalPath

open Segments

/-- The leading slashes of a normal path. -/
inductive Root
  | relative
  | single
  | double
  deriving DecidableEq

/-- The slashes themselves. -/
def Root.slashes : Root → List Char
  | .relative => []
  | .single => ['/']
  | .double => ['/', '/']

/-- Whether a path with these leading slashes is absolute. -/
def Root.isAbsolute : Root → Bool
  | .relative => false
  | _ => true

/-- The leading slashes that a path keeps. -/
def rootOf : List Char → Root
  | '/' :: '/' :: '/' :: _ => .single
  | '/' :: '/' :: _ => .double
  | '/' :: _ => .single
  | _ => .relative

/-- Every backslash as a slash. -/
def unifySlashes (path : List Char) : List Char :=
  path.map fun c => if c = '\\' then '/' else c

/-- The segment that stands for the parent directory. -/
def parent : Segment := ['.', '.']

/-- Apply one segment to a stack of segments, the innermost first. -/
def push (absolute : Bool) (stack : List Segment) (segment : Segment) : List Segment :=
  if segment = [] ∨ segment = ['.'] then stack
  else if segment = parent then
    match stack with
    | [] => if absolute then [] else [parent]
    | top :: rest => if top = parent then parent :: top :: rest else rest
  else segment :: stack

/-- The segments that are left after all of them were applied in turn. -/
def fold (absolute : Bool) (segments : List Segment) : List Segment :=
  (segments.foldl (push absolute) []).reverse

/-- The text of a normal path: the single dot stands for no segment at all. -/
def render (root : Root) (segments : List Segment) : List Char :=
  match root.slashes ++ ['/'].intercalate segments with
  | [] => ['.']
  | text => text

/-- The normal form of a path as a list of characters. The empty path stays empty. -/
def normalizeChars (path : List Char) : List Char :=
  let text := unifySlashes path
  if text = [] then []
  else render (rootOf text) (fold (rootOf text).isAbsolute (text.splitOn '/'))

/-- The normal form of a path. -/
def normalize (path : String) : String :=
  String.ofList (normalizeChars path.toList)

/-- The directory part and the name part of a path. The directory loses its trailing slashes unless
it has nothing else. -/
def splitName (path : List Char) : List Char × List Char :=
  match cutLast '/' path with
  | none => ([], path)
  | some (before, name) =>
      if before.all (· == '/') then (before ++ ['/'], name)
      else ((before.reverse.dropWhile (· == '/')).reverse, name)

/-- The directory part of a path. -/
def directory (path : List Char) : List Char :=
  (splitName path).1

/-- Put a path behind a directory. An absolute path stands alone. -/
def append (directory path : List Char) : List Char :=
  match path with
  | '/' :: _ => path
  | _ =>
      if directory = [] ∨ directory.getLast? = some '/' then directory ++ path
      else directory ++ '/' :: path

/-- The name of a file without its last extension. Dots at the front belong to the name. -/
def stem (name : List Char) : List Char :=
  match cutLast '.' name with
  | none => name
  | some (before, _) => if before.all (· == '.') then name else before

end NormalPath
end LayerLint
