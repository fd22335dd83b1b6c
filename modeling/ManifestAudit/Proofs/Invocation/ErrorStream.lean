import ManifestAudit.Proofs.Command.Trace
import ManifestAudit.Proofs.Invocation.Course
import ManifestAudit.Proofs.Text.OneLine

/-!
# The lines on the error stream

Who reads the error stream reads lines, and does not know what was said with which of them. A
line feed inside of what is said makes further lines of it, and these may look like anything. What
a run logs is on one line, and starts with its level, as long as the paths in it are on one line:
arguments are quoted, and nothing else comes from outside. The paths all begin with the root of
the project, which is shown as it is.
-/

namespace ManifestAudit

open Text

/-- The lines that a notice puts on the error stream. -/
def Notice.lines (notice : Notice) : List String :=
  (notice.text.toList.splitOn '\n').map String.ofList

namespace Invocation

variable {surroundings : Surroundings} {options : Options}

end Invocation

end ManifestAudit
