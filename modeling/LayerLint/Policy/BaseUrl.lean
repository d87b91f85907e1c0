import LayerLint.Json.Reader
import LayerLint.Policy.DirectoryName
import LayerLint.Text.Newline
import LayerLint.Text.Utf8
import LayerLint.Traced

/-!
# Base directories from compiler options

A policy that names no base directory takes it from the compiler options of the project, a JSON file
with comments in the same directory. A file that cannot be read or parsed gives a warning and no base
directory; a number in it that has too many digits ends the run, and so do lists and tables in it that are
nested too deep.
-/

namespace LayerLint
namespace BaseUrl

/-- The name of the file with the compiler options. -/
def fileName : String := "tsconfig.json"

/-- The value of a text key, if the value is a table that has it. -/
def member? (value : Value) (key : String) : Option Value :=
  match value.view with
  | .table entries => Value.find? entries key
  | _ => none

/-- The code points of the base directory that compiler options state, if it is a text that is not
empty. -/
def ofOptions? (options : Value) : Option (List Nat) :=
  match (member? options "compilerOptions").bind (member? · "baseUrl") with
  | some (.scalar scalar) => scalar.toCodes?.filter fun codes => !codes.isEmpty
  | _ => none

/-- The compiler options in the bytes of a file, in which so many lists and tables can be nested. -/
def parse (levels : Nat) (content : List UInt8) : Except Json.Fault Value :=
  match Text.Utf8.decode? content with
  | some text => Json.parseWithin levels (Json.plainChars (Text.unifyNewlines text))
  | none => .error .malformed

/-- The compiler options in a file. -/
def optionsIn (disk : Disk) (path : DiskPath) : Except Json.Fault Value :=
  match disk.read path with
  | .ok content => parse (disk.limits.levels .jsonList) content
  | .error _ => .error .malformed

/-- The base directory that compiler options in a directory state, made absolute. -/
def resolve (disk : Disk) (directory : DiskPath) (options : Value) :
    Except Breakdown (Option DiskPath) :=
  match ofOptions? options with
  | some codes => (DirectoryName.resolve disk directory codes).map some
  | none => .ok none

/-- The base directory that the compiler options in a directory state, made absolute. -/
def find (disk : Disk) (directory : DiskPath) : Traced (Except Breakdown (Option DiskPath)) :=
  let path := directory.join (.ofString fileName)
  match disk.askFile path with
  | .error cause => pure (.error cause)
  | .ok false => pure (.ok none)
  | .ok true =>
      match optionsIn disk path with
      | .ok options => pure (resolve disk directory options)
      | .error (.breakdown cause) => pure (.error cause)
      | .error .malformed => do
          Traced.warn .policy ("Could not read " ++ path.render)
          pure (.ok none)

end BaseUrl
end LayerLint
