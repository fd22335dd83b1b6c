import ManifestAudit.Report.Document
import ManifestAudit.Report.Form
import ManifestAudit.Report.Human

/-!
# The written report

A report is written in pieces, each of which is handed to the output as one text:
line by line for people, and the document and a line end for programs. What is
written as a whole is the pieces laid end to end.
-/

namespace ManifestAudit.Report

/-- The pieces of a written report. -/
def pieces (form : ReportForm) (report : Report) : List String :=
  match form with
  | .human => report.humanLines.map (· ++ "\n")
  | .json => [report.value.document, "\n"]

/-- The whole text of a written report. -/
def written (form : ReportForm) (report : Report) : String := String.join (report.pieces form)

end ManifestAudit.Report
