import LayerLint.Project.Lint
import LayerLint.Report.Porcelain
import LayerLint.Report.Rich
import LayerLint.Report.Structured

/-!
# Reports on any result

A result need not come from a run over files. Its numbers may have more digits than can be written, and
there may be no directory that its paths can be seen from. Then there is no report.
-/

namespace LayerLint
namespace Report

/-- Refuse numbers that have too many digits to be written. -/
def allow (numbers : List Int) : Except Breakdown Unit :=
  if numbers.all fun number => (Scalar.int number).isWritable then .ok ()
  else .error .tooLongToWrite

/-- The directory that paths are shown relative to, if a root of the project is given. -/
def directoryFor (disk : Disk) (root : Option DiskPath) (result : LintResult) :
    Except Breakdown (Option DiskPath) :=
  match root with
  | none => .ok none
  | some root => Project.reportRoot disk root result

/-- The numbers that reports with text show for a violation. -/
def placeNumbers (violation : Violation) : List Int :=
  [violation.line, violation.column + 1]

/-- Write the report for people. -/
def writeRich (disk : Disk) (root : Option DiskPath) (result : LintResult) :
    Except Breakdown String := do
  allow [result.filesScanned, result.filesExcluded, result.importsChecked, result.filesSkipped]
  let project ← directoryFor disk root result
  allow (result.violations.flatMap placeNumbers ++ [(result.violations.length : Int)])
  pure (rich project result)

/-- Write the report line by line. -/
def writePorcelain (disk : Disk) (root : Option DiskPath) (result : LintResult) :
    Except Breakdown String := do
  let project ← directoryFor disk root result
  allow (result.violations.flatMap placeNumbers)
  pure (porcelain project result)

end Report
end LayerLint
