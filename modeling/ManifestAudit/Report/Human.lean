import ManifestAudit.Audit.Report

/-!
# Reports for people

One line for each finding: a label, a colon and a blank, and what it is about.
Diagnostics come first and show the package; suggestions follow. A clean report is
one line that says so.
-/

namespace ManifestAudit.Report

/-- The line of a clean report. -/
def successLine : String := "OK: No issues found in requirements."

/-- The label of a suggestion. -/
def suggestionLabel : String := "SUGGESTION"

/-- A labelled line. -/
def labelled (label text : String) : String := label ++ ": " ++ text

/-- The line of a diagnostic. -/
def diagnosticLine (diagnostic : Diagnostic) : String :=
  labelled diagnostic.kind.label diagnostic.package

/-- The lines of a report for people. -/
def humanLines (report : Report) : List String :=
  if report.isClean then [successLine]
  else report.diagnostics.map diagnosticLine ++ report.suggestions.map (labelled suggestionLabel)

end ManifestAudit.Report
