import LayerLint.Json.Printer
import LayerLint.Report

/-!
# Reports for programs

The violations and a summary as a JSON text.
-/

namespace LayerLint
namespace Report

/-- A count as a value. -/
def count (number : Int) : Value :=
  .scalar (.int number)

/-- A table whose keys are texts. -/
def object (entries : List (String × Value)) : Value :=
  .table (entries.map fun entry => (.text entry.1, entry.2))

/-- A violation as a value. Columns count from one here. -/
def violationValue (project : Option DiskPath) (violation : Violation) : Value :=
  object
    [("file_path", .text (displayPath project violation.file)),
      ("start", count violation.start),
      ("end", count violation.stop),
      ("line", count violation.line),
      ("column", count (violation.column + 1)),
      ("rule_type", .text violation.rule),
      ("package", (violation.package.map Value.text).getD .null),
      ("message", .text violation.message)]

/-- The counters, the warnings and the time as a value. -/
def summaryValue (result : LintResult) : Value :=
  object
    [("violations_count", count result.violations.length),
      ("files_scanned", count result.filesScanned),
      ("files_excluded", count result.filesExcluded),
      ("files_skipped", count result.filesSkipped),
      ("imports_checked", count result.importsChecked),
      ("warnings", .list (result.warnings.map Value.text)),
      ("elapsed_ms", .scalar (.float result.elapsed))]

/-- A result as a value. -/
def resultValue (project : Option DiskPath) (result : LintResult) : Value :=
  object
    [("violations", .list (result.violations.map (violationValue project))),
      ("summary", summaryValue result)]

/-- The report for programs. -/
def structured (project : Option DiskPath) (result : LintResult) : String :=
  Json.render 0 (resultValue project result)

end Report
end LayerLint
