import ManifestAudit.Text.Styled
import ManifestAudit.Text.Terminal

/-!
# Why arguments give no options

An argument list may ask for help or for the version in place of a run, or it may
be wrong. Each way to be wrong has one text.
-/

namespace ManifestAudit

/-- The options that take a value. -/
inductive ValueOption
  | project
  | form
deriving DecidableEq, Repr

/-- The options that stand alone. -/
inductive Flag
  | listRules
  | debug
deriving DecidableEq, Repr

namespace ValueOption

/-- The option as texts about usage call it. -/
def usageName : ValueOption → String
  | project => "--project <PROJECT>"
  | form => "--format <FORMAT>"

end ValueOption

namespace Flag

/-- The flag as it is typed. -/
def usageName : Flag → String
  | listRules => "--list-rules"
  | debug => "--debug"

end Flag

/-- What is wrong with an argument list. -/
inductive UsageError
  /-- An argument that stands for nothing. -/
  | unexpected (argument : String)
  /-- An option without the value it needs. -/
  | valueMissing (option : ValueOption)
  /-- An option that was given before. -/
  | repeatedOption (option : ValueOption)
  /-- A flag that was given before. -/
  | repeatedFlag (flag : Flag)
  /-- A value that names no form of a report. -/
  | unknownForm (value : String)
  /-- A value for something that takes none. -/
  | valueRefused (flag value : String)
deriving DecidableEq, Repr

namespace UsageError

/-- What is wrong, in the styles of a terminal. -/
def complaint : UsageError → String
  | unexpected argument => "unexpected argument " ++ Text.Style.wrong.quote argument ++ " found"
  | valueMissing option =>
    "a value is required for " ++ Text.Style.wrong.quote option.usageName ++
      " but none was supplied"
  | repeatedOption option =>
    "the argument " ++ Text.Style.wrong.quote option.usageName ++
      " cannot be used multiple times"
  | repeatedFlag flag =>
    "the argument " ++ Text.Style.wrong.quote flag.usageName ++ " cannot be used multiple times"
  | unknownForm value =>
    "invalid value " ++ Text.Style.wrong.quote value ++ " for " ++
      Text.Style.literal.quote ValueOption.form.usageName
  | valueRefused flag value =>
    "unexpected value " ++ Text.Style.wrong.quote value ++ " for " ++
      Text.Style.literal.quote flag ++ " found; no more were expected"

/-- The text that tells people what is wrong, in the styles of a terminal. -/
def styledMessage (error : UsageError) : String :=
  Text.Style.alarm.mark "error:" ++ " " ++ error.complaint

/-- The text that tells people what is wrong. -/
def message (error : UsageError) : String := Text.withoutControls .dropped error.styledMessage

/-- The text as it goes to a stream that is no terminal. -/
def printedMessage (error : UsageError) : String :=
  Text.withoutControls .resumed error.styledMessage

/-- Exit code of a run with wrong arguments. -/
def exitCode : Nat := 2

end UsageError

/-- How much help is asked for. -/
inductive HelpLength
  | short
  | long
deriving DecidableEq, Repr

/-- What an argument list gives in place of options. -/
inductive Interruption
  | help (length : HelpLength)
  | version
  | usage (error : UsageError)
deriving DecidableEq, Repr

end ManifestAudit
