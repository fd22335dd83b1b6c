import ManifestAudit.Audit.Diagnostic

/-!
# Reports

A report is the outcome of an audit: the diagnostics of all rules in order, and
suggestions. It is clean when it holds neither, and the exit code says which.
-/

namespace ManifestAudit

/-- The outcome of an audit. -/
structure Report where
  diagnostics : List Diagnostic
  suggestions : List String
deriving DecidableEq, Repr

/-- How a command ended: with success or not, and the exit code. -/
structure Verdict where
  isSuccess : Bool
  exitCode : Nat
deriving DecidableEq, Repr

namespace Verdict

/-- Exit code of a run that found nothing. -/
def cleanCode : Nat := 0

/-- Exit code of a run that found something. -/
def issuesCode : Nat := 2

/-- Nothing found. -/
def success : Verdict := ⟨true, cleanCode⟩

/-- Something found, with the exit code that says so. -/
def failure (exitCode : Nat) : Verdict := ⟨false, exitCode⟩

end Verdict

namespace Report

/-- The report without findings. -/
def empty : Report := ⟨[], []⟩

instance : Inhabited Report := ⟨empty⟩

/-- Whether there is nothing to say. -/
def isClean (report : Report) : Bool :=
  report.diagnostics.isEmpty && report.suggestions.isEmpty

/-- The exit code for the report. -/
def exitCode (report : Report) : Nat :=
  if report.isClean then Verdict.cleanCode else Verdict.issuesCode

/-- How a command ends that made the report. -/
def verdict (report : Report) : Verdict :=
  if report.isClean then .success else .failure report.exitCode

/-- How many diagnostics have a kind. -/
def count (report : Report) (kind : Kind) : Nat :=
  report.diagnostics.countP fun diagnostic => diagnostic.kind = kind

/-- Whether two lists of diagnostics say the same one by one. -/
def sameDiagnostics : List Diagnostic → List Diagnostic → Bool
  | [], [] => true
  | left :: lefts, right :: rights => left.same right && sameDiagnostics lefts rights
  | _, _ => false

/-- Whether two reports say the same, however their files are spelled. -/
def same (left right : Report) : Bool :=
  sameDiagnostics left.diagnostics right.diagnostics && left.suggestions == right.suggestions

/-- Only the report without findings is clean. -/
theorem isClean_iff {report : Report} : report.isClean = true ↔ report = empty := by
  cases report
  simp [isClean, empty]

end Report

end ManifestAudit
