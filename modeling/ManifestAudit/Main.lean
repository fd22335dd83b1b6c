import ManifestAudit.Invocation

/-!
# The program

Gathers what a run finds around it, runs, and passes on what the run gave. The
files that a run may read are known from its arguments, so they are read first.
-/

namespace ManifestAudit.Program

/-- The environment variable that chooses what is logged. -/
def loggingVariable : String := "RUST_LOG"

/-- The number of a system error, where it has one. -/
def systemCode? : IO.Error → Option UInt32
  | .alreadyExists _ code _ => some code
  | .otherError code _ => some code
  | .resourceBusy code _ => some code
  | .resourceVanished code _ => some code
  | .unsupportedOperation code _ => some code
  | .hardwareFault code _ => some code
  | .unsatisfiedConstraints code _ => some code
  | .illegalOperation code _ => some code
  | .protocolError code _ => some code
  | .timeExpired code _ => some code
  | .interrupted _ code _ => some code
  | .noFileOrDirectory _ code _ => some code
  | .invalidArgument _ code _ => some code
  | .permissionDenied _ code _ => some code
  | .resourceExhausted _ code _ => some code
  | .inappropriateType _ code _ => some code
  | .noSuchThing _ code _ => some code
  | .unexpectedEof => none
  | .userError _ => none

/-- A failed action of the system as an error of input or output. Some actions
give the number of the error with its sign turned. -/
def ioError (error : IO.Error) : IoError :=
  match systemCode? error with
  | some code => .system (min code (0 - code)).toNat
  | none => .worded (toString error)

/-- Run an action and keep its failure as a value. -/
def attempt {α : Type} (action : IO α) : IO (Except IoError α) := do
  try return .ok (← action)
  catch error => return .error (ioError error)

/-- The current directory. It cannot be told only where it was removed. -/
def currentDirectory : IO (Except IoError String) := do
  try return .ok (← IO.currentDir).toString
  catch _ => return .error .noSuchFile

/-- Pass the output of a run on to the output stream. -/
def passOn (outcome : Outcome) : IO Unit := do
  let output ← IO.getStdout
  output.write ⟨outcome.output.accepted⟩
  output.flush

/-- Run, and run again with an output that refuses everything if the output stream
turns out to. An interruption is no refusal. -/
def runAndPassOn (surroundings : Surroundings) (arguments : List String) : IO Outcome := do
  let outcome := Invocation.run surroundings arguments
  match ← attempt (passOn outcome) with
  | .ok () => return outcome
  | .error cause =>
    if lasting : cause.isInterruption = false then
      return Invocation.run { surroundings with output := Sink.refusing cause lasting } arguments
    else return outcome

end ManifestAudit.Program

open ManifestAudit in
/-- Run the program with arguments and give its exit code. -/
def main (arguments : List String) : IO UInt32 := do
  let currentDirectory ← Program.currentDirectory
  let paths := Invocation.pathsToRead currentDirectory arguments
  let known ← paths.mapM fun (path : String) =>
    return (path, ← Program.attempt (IO.FS.readBinFile path))
  let logging ← IO.getEnv Program.loggingVariable
  let outcome ← Program.runAndPassOn
    ⟨currentDirectory, Reader.ofList known, logging, .unbounded⟩ arguments
  (← IO.getStderr).putStr outcome.errorText
  return outcome.exitCode.toUInt32
