import LayerLint.NormalPath

/-!
# Paths below a base directory

A path below the base directory is named by what follows the base directory. Whole segments are
dropped: a sibling whose name merely starts like the base directory is not below it.
-/

namespace LayerLint
namespace BaseDir

open NormalPath

/-- A text without its trailing slashes. -/
def trimSlashes (text : List Char) : List Char :=
  (text.reverse.dropWhile (· == '/')).reverse

/-- The rest of a text behind a beginning, if the text starts so. -/
def afterPrefix? : List Char → List Char → Option (List Char)
  | [], text => some text
  | _ :: _, [] => none
  | expected :: start, c :: text => if c = expected then afterPrefix? start text else none

/-- Drop a base directory in normal form, given without its trailing slashes, from the front of a
path. Without any segment the base directory is the root. -/
def stripTrimmed (path base : List Char) : List Char :=
  if base = [] then
    match path with
    | '/' :: rest => rest
    | _ => path
  else if path = base then []
  else (afterPrefix? (base ++ ['/']) path).getD path

/-- Drop a base directory and the slash behind it from the front of a path. -/
def stripChars (path base : List Char) : List Char :=
  if base = [] then path else stripTrimmed path (trimSlashes (normalizeChars base))

/-- Drop the base directory, if there is one, from the front of a path. -/
def strip (path : String) (base : Option String) : String :=
  match base with
  | none => path
  | some base => String.ofList (stripChars path.toList base.toList)

end BaseDir
end LayerLint
