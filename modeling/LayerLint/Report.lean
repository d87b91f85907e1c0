import LayerLint.DiskPath
import LayerLint.Number.Double
import LayerLint.Walker

/-!
# Results of a run

A run over the files of a project has counters, the violations of all files in order, the warnings
about the policy, and the time that it took.
-/

namespace LayerLint

/-- The result of a run. The time is in milliseconds. -/
structure LintResult where
  violations : List Violation := []
  filesScanned : Int := 0
  filesExcluded : Int := 0
  filesSkipped : Int := 0
  importsChecked : Int := 0
  warnings : List String := []
  elapsed : Number.Double := .zero
  deriving DecidableEq

namespace Report

/-- A path as reports show it: relative to the project, if it lies there. -/
def displayPath (project : Option DiskPath) (path : String) : String :=
  match project.bind ((DiskPath.ofString path).relativeTo? ·) with
  | some relative => relative.render
  | none => path

end Report
end LayerLint
