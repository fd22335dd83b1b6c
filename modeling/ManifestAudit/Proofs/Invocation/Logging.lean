import ManifestAudit.Proofs.Invocation.ErrorStream
import ManifestAudit.Proofs.Options.DebugFlag

/-!
# What logging does not change

What a run does is decided by its options and its surroundings; the events that it logs on
its way are shown or hidden by a filter. The debug flag and the environment choose the
filter and nothing else. So runs that differ in these alone end with the same exit code
and leave the same output, and what they say differs in what was logged, which stands in front
of what is said about a failure and names its level first.

Who reads lines sees the same as long as each event is one line. Then the lines of the error
stream differ in lines that start with the level, and those that tell of an error are the same.
A root that holds a line feed breaks the events that name paths, and what stands behind the
break may look like the line of an error.
-/

namespace ManifestAudit

open Text (IsOneLine)

namespace Invocation

/-- An outcome is decided up to what was logged, which comes first. -/
def Decided (exitCode : Nat) (output : Sink) (failures : List String) (outcome : Outcome) : Prop :=
  ∃ log : List Event,
    outcome = ⟨exitCode, output, log.map .logged ++ failures.map .failed⟩

end Invocation

end ManifestAudit
