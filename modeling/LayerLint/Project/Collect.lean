import LayerLint.Disk
import LayerLint.Grammar
import LayerLint.Traced

/-!
# Source files of a project

The source files below some roots are the files with a supported extension. Directories for
dependencies and hidden directories are passed over, and so are links to directories and directories that
may not be listed; a link to a file counts under its own name. The system is asked about every path with a
supported extension, and the search breaks off if it refuses to answer. Files come in the order of their
names, segment by segment.
-/

namespace LayerLint
namespace Project

/-- Whether a directory of the given name is passed over. -/
def isSkipped (name : String) : Bool :=
  name == "node_modules" || name.toList.head? == some '.'

/-- Whether a file of the given name has a supported extension. -/
def isSource (name : String) : Bool :=
  Grammar.isSupported (DiskPath.extensionOf name)

/-- What a search meets: a path, with whether it lies in a directory that is passed over, or something
that breaks it off. -/
inductive Met
  | entry (path : DiskPath) (hidden : Bool)
  | obstacle (cause : Breakdown)

/-- The source file among what is met, if it is one. Paths in directories that are passed over are asked
about as well. -/
def Met.sources (disk : Disk) : Met → Except Breakdown (List DiskPath)
  | .obstacle cause => .error cause
  | .entry path hidden =>
      if isSource path.name then
        (disk.askFile path).map fun isFile => if isFile && !hidden then [path] else []
      else .ok []

/-- Whether the names in a directory can be listed. A directory that is not open to the user counts as
empty. -/
def canList (disk : Disk) (directory : DiskPath) : Except Breakdown Bool :=
  match disk.reach directory.render directory with
  | .ok names => .ok (disk.rights names).reads
  | .error .nameTooLong => .error (.refused .nameTooLong directory.render)
  | .error _ => .ok false

/-- What is met in a directory: its entries, and then what is met inside of them. -/
def metIn (disk : Disk) (hidden : Bool) (here : List String) (names : List String) (inside : List Met) :
    List Met :=
  match canList disk (.absolute here.reverse) with
  | .error cause => [.obstacle cause]
  | .ok false => []
  | .ok true => names.map (fun name => .entry (.absolute (name :: here).reverse) hidden) ++ inside

mutual

/-- What is met at a node through so many levels of directories. The names that lead to the node have the
innermost name first. Links are not entered. -/
def metAt (disk : Disk) (hidden : Bool) (levels : Nat) (here : List String) : DiskNode → List Met
  | .directory entries =>
      match levels with
      | 0 => [.obstacle (.tooDeep .directory)]
      | levels + 1 =>
          metIn disk hidden here (entries.map Prod.fst) (metAmong disk hidden levels here entries)
  | _ => []

/-- What is met inside of the entries of a directory. -/
def metAmong (disk : Disk) (hidden : Bool) (levels : Nat) (here : List String) :
    List (String × DiskNode) → List Met
  | [] => []
  | (name, node) :: rest =>
      metAt disk (hidden || isSkipped name) levels (name :: here) node ++
        metAmong disk hidden levels here rest

end

/-- All that is found for several things, up to the first failure. -/
def gather {ε α β : Type} (find : α → Except ε (List β)) : List α → Except ε (List β)
  | [] => .ok []
  | item :: items => do
      let first ← find item
      let others ← gather find items
      pure (first ++ others)

/-- The source files below a directory. -/
def sourcesBelow (disk : Disk) (directory : DiskPath) : Except Breakdown (List DiskPath) :=
  match disk.target? directory with
  | some node =>
      gather (Met.sources disk)
        (metAt disk false (disk.limits.levels .directory) directory.names.reverse node)
  | none => .ok []

/-- The source files that an absolute path stands for: the file itself, or the files below a
directory. -/
def sourcesAt (disk : Disk) (path : DiskPath) : Traced (Except Breakdown (List DiskPath)) :=
  match disk.askFile path with
  | .error cause => pure (.error cause)
  | .ok true => pure (.ok (if isSource path.name then [path] else []))
  | .ok false =>
      match disk.askDirectory path with
      | .error cause => pure (.error cause)
      | .ok true => pure (sourcesBelow disk path)
      | .ok false => do
          Traced.warn .linter ("Path does not exist: " ++ path.render)
          pure (.ok [])

/-- The source files that a root stands for. -/
def sourcesOf (disk : Disk) (root : DiskPath) : Traced (Except Breakdown (List DiskPath)) :=
  match disk.resolve root with
  | .error cause => pure (.error cause)
  | .ok path => sourcesAt disk path

/-- Whether the names of one path do not come behind those of another one. -/
def inOrder : List String → List String → Bool
  | [], _ => true
  | _ :: _, [] => false
  | first :: rest, other :: others =>
      if first == other then inOrder rest others else decide (first < other)

/-- The source files that several roots stand for. -/
def sourcesOfAll (disk : Disk) : List DiskPath → Traced (Except Breakdown (List DiskPath))
  | [] => pure (.ok [])
  | root :: roots => do
      match ← sourcesOf disk root with
      | .error cause => pure (.error cause)
      | .ok first =>
          let rest ← sourcesOfAll disk roots
          pure (rest.map fun rest => first ++ rest)

/-- Files in order and each once. -/
def arranged (files : List DiskPath) : List DiskPath :=
  files.eraseDups.mergeSort fun first second => inOrder first.names second.names

/-- The source files below some roots, in order and each once. -/
def collect (disk : Disk) (roots : List DiskPath) :
    Traced (Except Breakdown (List DiskPath)) := do
  let found ← sourcesOfAll disk roots
  pure (found.map arranged)

end Project
end LayerLint
