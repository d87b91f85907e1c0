import LayerLint.BaseDir

/-!
# Packages

The package of a source file is its directory below the base directory, followed by the stem of its
name.
-/

namespace LayerLint
namespace Package

open NormalPath

/-- The package of a file whose directory and stem are known. -/
def ofParts (directory stem : List Char) : List Char :=
  if directory = [] then stem else directory ++ '/' :: stem

/-- The package of a file as a list of characters; an empty base directory strips nothing. -/
def ofFileChars (file base : List Char) : List Char :=
  let parts := splitName (normalizeChars file)
  ofParts (BaseDir.stripChars parts.1 base) (stem parts.2)

/-- The package of a file below a base directory, if there is one. -/
def ofFile (file : String) (base : Option String) : String :=
  String.ofList (ofFileChars file.toList (base.getD "").toList)

end Package
end LayerLint
