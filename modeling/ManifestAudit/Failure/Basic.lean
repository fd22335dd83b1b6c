import ManifestAudit.Failure.Io

/-!
# Failures that end a run

Findings about a manifest are diagnostics; a failure is what keeps a run from
giving a report. Each failure has a text in one line, a text that spells it out,
and the list of its causes from the outermost to the first. A failure of input or
output is spelled out no further than its own text, which names the error right below
it and nothing below that one.
-/

namespace ManifestAudit

/-- Why a run gave no report. -/
inductive Failure
  /-- A manifest is there but cannot be read as text. -/
  | manifestRead (path : String) (cause : IoError)
  /-- The report could not be written. -/
  | io (cause : IoError)
  /-- Anything else, which speaks for itself. -/
  | other (cause : Cause)
deriving DecidableEq, Repr

namespace Failure

/-- The text of a failure. -/
def message : Failure → String
  | manifestRead path cause => "Failed to read manifest at " ++ path ++ ": " ++ cause.message
  | io cause => "IO error: " ++ cause.message
  | other cause => cause.message

/-- The text of a failure, spelled out. -/
def spelledOut : Failure → String
  | other cause => cause.spelledOut
  | failure => failure.message

/-- The causes of a failure, the outermost first. -/
def sources : Failure → List String
  | manifestRead _ cause => cause.message :: cause.sources
  | io cause => cause.message :: cause.sources
  | other cause => cause.sources

end Failure

end ManifestAudit
