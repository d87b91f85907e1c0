import LayerLint.NormalPath

/-!
# Paths of files

A path of a file is its leading slashes and the names between its slashes. Empty names and single
dots carry no meaning and are dropped; double dots stay, because the name before one may be a link.
A backslash is an ordinary character of a name.
-/

namespace LayerLint

/-- A path to a file or a directory. -/
structure DiskPath where
  root : NormalPath.Root
  names : List String
  deriving DecidableEq

namespace DiskPath

/-- The names in a text that is cut at its slashes. -/
def namesOf (text : String) : List String :=
  ((text.toList.splitOn '/').map String.ofList).filter fun name => name != "" && name != "."

/-- The path that a text denotes. -/
def ofString (text : String) : DiskPath :=
  ⟨NormalPath.rootOf text.toList, namesOf text⟩

/-- Whether the text of a path can only lead to a directory: it ends with a slash or a single dot. -/
def endsAsDirectory (text : String) : Bool :=
  let last := Segments.last text.toList
  last == [] || last == ['.']

/-- The text of a path; a path without any name is the single dot. -/
def render (path : DiskPath) : String :=
  match String.ofList path.root.slashes ++ String.intercalate "/" path.names with
  | "" => "."
  | text => text

/-- An absolute path from the names below the root. -/
def absolute (names : List String) : DiskPath :=
  ⟨.single, names⟩

/-- Whether a path starts at the root. -/
def isAbsolute (path : DiskPath) : Bool :=
  path.root.isAbsolute

/-- Whether a path holds the character that ends paths. -/
def hasNull (path : DiskPath) : Bool :=
  path.names.any fun name => name.toList.contains '\x00'

/-- A path seen from a directory. An absolute path stays as it is. -/
def join (directory path : DiskPath) : DiskPath :=
  if path.isAbsolute then path else ⟨directory.root, directory.names ++ path.names⟩

/-- The last name of a path. -/
def name (path : DiskPath) : String :=
  path.names.getLastD ""

/-- The directory of a path. -/
def parent (path : DiskPath) : DiskPath :=
  ⟨path.root, path.names.dropLast⟩

/-- The last extension of a name with its dot. A dot at the very front or at the very end starts no
extension. -/
def extensionOf (name : String) : String :=
  match Segments.cutLast '.' name.toList with
  | some (_ :: _, last :: rest) => String.ofList ('.' :: last :: rest)
  | _ => ""

/-- The extension of the last name of a path. -/
def extension (path : DiskPath) : String :=
  extensionOf path.name

/-- The names of a path behind those of a directory, if the path lies below it. -/
def relativeTo? (path directory : DiskPath) : Option DiskPath :=
  if path.root = directory.root ∧ directory.names.isPrefixOf path.names then
    some ⟨.relative, path.names.drop directory.names.length⟩
  else none

end DiskPath
end LayerLint
