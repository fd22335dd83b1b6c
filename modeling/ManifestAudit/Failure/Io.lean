import ManifestAudit.Failure.Cause
import ManifestAudit.Failure.SystemError

/-!
# Failures of input and output

What can go wrong while a file is read or a text is written.
-/

namespace ManifestAudit

/-- Why reading or writing failed. -/
inductive IoError
  /-- The operating system refused, with its error number. -/
  | system (code : Nat)
  /-- The bytes of a file are not text. -/
  | notText
  /-- A path holds a character that no file name may hold. -/
  | nulInName
  /-- Another error, of whatever was read or written. It is shown by the text of that error, and
  what is below that error is below it. -/
  | custom (error : Cause)
deriving DecidableEq, Repr

namespace IoError

/-- A reason that the source of the failure words itself. -/
def worded (text : String) : IoError := custom (.first text)

/-- The text that tells people what went wrong. -/
def message : IoError → String
  | system code => SystemError.text code ++ " (os error " ++ toString code ++ ")"
  | notText => "stream did not contain valid UTF-8"
  | nulInName => "file name contained an unexpected NUL byte"
  | custom error => error.message

/-- The error as a cause. Only a custom error has anything below it. -/
def asCause : IoError → Cause
  | custom error => error
  | error => .first error.message

/-- The texts of the errors below. -/
def sources (error : IoError) : List String := error.asCause.sources

/-- The error of a file that is not there. -/
def noSuchFile : IoError := system SystemError.noSuchFile

/-- Whether the error only says that nothing is there. -/
def isAbsence (error : IoError) : Bool := error = noSuchFile

/-- Whether the error only says that a signal came in between. -/
def isInterruption (error : IoError) : Bool := error = system SystemError.interrupted

end IoError

end ManifestAudit
