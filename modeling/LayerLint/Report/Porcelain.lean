import LayerLint.Report
import LayerLint.Text.Newline

/-!
# Reports line by line

One line for each violation: its place, its rule and its message, separated by colons.
-/

namespace LayerLint
namespace Report

/-- The line for a violation. -/
def porcelainLine (project : Option DiskPath) (violation : Violation) : String :=
  displayPath project violation.file ++ ":" ++ toString violation.line ++ ":" ++
    toString (violation.column + 1) ++ ":" ++ violation.rule ++ ":" ++ violation.message

/-- The report line by line, which is empty without violations. -/
def porcelain (project : Option DiskPath) (result : LintResult) : String :=
  Text.joinLines (result.violations.map (porcelainLine project))

end Report
end LayerLint
