import LayerLint.Project.Collect
import LayerLint.Project.Setup
import LayerLint.Report

/-!
# Linting a project

The source files of a project are checked one after the other, and what is found is gathered into one
result. A file that cannot be read is passed over with a warning.
-/

namespace LayerLint
namespace Project

/-- The syntax tree of a source file, unless the file cannot be read or has no supported extension. -/
def parseFile (disk : Disk) (path : DiskPath) : Except Breakdown (Option Tree) :=
  if Grammar.isSupported path.extension then
    match disk.read path with
    | .ok content => .ok (Grammar.parse path.extension (.bytes content)).toOption
    | .error .nullInPath => .error .nullInPath
    | .error _ => .ok none
  else .ok none

/-- Add the outcome of one file to a result. -/
def addWalk (result : LintResult) (walker : Walker) : LintResult :=
  let excluded := walker.state == .done && walker.layer.isNone
  { result with
    violations := result.violations ++ walker.violations
    filesScanned := result.filesScanned + if excluded then 0 else 1
    filesExcluded := result.filesExcluded + if excluded then 1 else 0
    importsChecked := result.importsChecked + walker.edges.length }

/-- Check one file and add its outcome to a result. -/
def lintFile (disk : Disk) (policy : Policy) (result : LintResult) (path : DiskPath) :
    Traced LintResult :=
  match parseFile disk path with
  | .ok (some tree) => do
      let (walker, _) ← checkFile policy Glob.isMatch path.render tree
      pure (addWalk result walker)
  | _ => do
      Traced.warn .linter ("Cannot read file: " ++ path.render)
      pure { result with filesSkipped := result.filesSkipped + 1 }

/-- Check files one after the other. -/
def lintFiles (disk : Disk) (policy : Policy) (result : LintResult) :
    List DiskPath → Traced LintResult
  | [] => pure result
  | path :: paths => do
      let next ← lintFile disk policy result path
      lintFiles disk policy next paths

/-- Lint the given paths of a project, or its base directory. Without a policy nothing is checked. -/
def lint (disk : Disk) (root : DiskPath) (config : Option DiskPath) (paths : List DiskPath)
    (debug : Option Int) : Traced (Except SetupFault LintResult) := do
  match ← setUp disk root config debug with
  | .error fault => pure (.error fault)
  | .ok none => pure (.ok {})
  | .ok (some checked) =>
      let roots := if paths.isEmpty then [DiskPath.ofString checked.policy.baseDir] else paths
      match ← collect disk roots with
      | .error cause => pure (.error (.breakdown cause))
      | .ok files =>
          let result ← lintFiles disk checked.policy { warnings := checked.warnings } files
          pure (.ok result)

/-- The directory that the paths in a report are relative to: the root of the project, unless it cannot
be made absolute. A report without violations shows no paths. -/
def reportRoot (disk : Disk) (root : DiskPath) (result : LintResult) :
    Except Breakdown (Option DiskPath) :=
  if result.violations.isEmpty then .ok none
  else
    match disk.resolve root with
    | .ok path => .ok (some path)
    | .error .nullInPath => .ok none
    | .error cause => .error cause

end Project
end LayerLint
