import LayerLint.Number.Shortest
import LayerLint.Report
import LayerLint.Text.Newline

/-!
# Reports for people

A summary line, the warnings, and for each violation its place and its message, followed by the
number of violations and the time in seconds.
-/

namespace LayerLint
namespace Report

/-- The time is shown in seconds with one place. -/
def renderSeconds (elapsed : Number.Double) : String :=
  (elapsed.divNat 1000).renderTenths ⟨"nan", "inf"⟩ ++ "s"

/-- The lines before the violations. -/
def headLines (result : LintResult) : List String :=
  ["Files: " ++ toString result.filesScanned ++ " scanned, " ++ toString result.filesExcluded ++
      " excluded, " ++ toString result.importsChecked ++ " imports checked"] ++
    (if result.filesSkipped = 0 then []
      else ["Skipped: " ++ toString result.filesSkipped ++ " unreadable files"]) ++
    result.warnings.map ("Warning: " ++ ·) ++ [""]

/-- The lines about one violation. -/
def violationLines (project : Option DiskPath) (violation : Violation) : List String :=
  ["✗ " ++ displayPath project violation.file ++ ":" ++ toString violation.line ++ ":" ++
      toString (violation.column + 1),
    "  " ++ violation.message,
    ""]

/-- The last line. -/
def footLine (result : LintResult) : String :=
  let time := " (" ++ renderSeconds result.elapsed ++ ")"
  if result.violations.isEmpty then "✓ No violations found" ++ time
  else toString result.violations.length ++ " violations found" ++ time

/-- The report for people. -/
def rich (project : Option DiskPath) (result : LintResult) : String :=
  Text.joinLines
    (headLines result ++ result.violations.flatMap (violationLines project) ++ [footLine result])

end Report
end LayerLint
