import LayerLint.BaseDir
import LayerLint.Text.Lowercase

/-!
# Import specifiers

The text after an import names either an external package, which is taken as it stands, or a file
relative to the importing one. A relative specifier is joined to the directory of the importing file
and named below the base directory, so that it has the shape of a file's package.
-/

namespace LayerLint
namespace Specifier

open NormalPath

/-- The characters that may enclose a specifier. -/
def isQuote (c : Char) : Bool :=
  c == '\x27' || c == '\x22' || c == '\x60'

/-- A specifier without its enclosing pair of quotes, if it has one. -/
def unquoteChars (text : List Char) : List Char :=
  match text with
  | first :: second :: rest =>
      if isQuote first && (second :: rest).getLast? == some first then (second :: rest).dropLast
      else text
  | _ => text

/-- Whether some dot is followed directly by a slash. -/
def isRelativeChars : List Char → Bool
  | [] => false
  | '.' :: '/' :: _ => true
  | _ :: rest => isRelativeChars rest

/-- The extensions of source files that a specifier may spell out, the longest first where one ends
in another. -/
def extensions : List (List Char) :=
  [['.', 'd', '.', 't', 's'], ['.', 't', 's'], ['.', 't', 's', 'x'], ['.', 'm', 't', 's'],
    ['.', 'c', 't', 's'], ['.', 'j', 's'], ['.', 'j', 's', 'x'], ['.', 'm', 'j', 's'],
    ['.', 'c', 'j', 's']]

/-- Drop the first of the extensions that a path ends in, whatever its case. -/
def dropExtension (path : List Char) : List Char :=
  match extensions.find? fun extension => extension.isSuffixOf (Text.lowerChars path) with
  | none => path
  | some extension => path.take (path.length - extension.length)

/-- The path that a relative specifier denotes for a file. -/
def target (specifier file : List Char) : List Char :=
  normalizeChars (append (directory (normalizeChars file)) (unifySlashes specifier))

/-- The package that a specifier denotes for a file below a base directory. -/
def resolveChars (text file base : List Char) : List Char :=
  let specifier := unquoteChars text
  if isRelativeChars specifier then dropExtension (BaseDir.stripChars (target specifier file) base)
  else specifier

/-- A specifier without its enclosing quotes. -/
def unquote (text : String) : String :=
  String.ofList (unquoteChars text.toList)

/-- Whether a text has a relative segment. -/
def isRelative (text : String) : Bool :=
  isRelativeChars text.toList

/-- The package that the text of an import denotes for the importing file. -/
def resolve (text file : String) (base : Option String) : String :=
  String.ofList (resolveChars text.toList file.toList (base.getD "").toList)

end Specifier
end LayerLint
