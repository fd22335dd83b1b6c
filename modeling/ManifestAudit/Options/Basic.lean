import ManifestAudit.Report.Form
import ManifestAudit.Text.Quoted

/-!
# Options of a run

What a run is asked to do: where the project lies, how to write the report,
whether to list the rules in place of an audit, and whether to log.
-/

namespace ManifestAudit

/-- The options of a run. -/
structure Options where
  /-- The project root; the current directory where none is given. -/
  project : Option String
  /-- The form of the report. -/
  form : ReportForm
  /-- List the built-in rules and do nothing else. -/
  listRules : Bool
  /-- Log what happens. -/
  debug : Bool
deriving DecidableEq, Repr

namespace Options

/-- The options of a run that is given no arguments. -/
def standard : Options := ⟨none, .human, false, false⟩

instance : Inhabited Options := ⟨standard⟩

/-- A truth value in debug messages. -/
def debugBool (value : Bool) : String := if value then "true" else "false"

/-- The project in debug messages. -/
def debugProject : Option String → String
  | none => "None"
  | some root => "Some(" ++ Text.quoted root ++ ")"

/-- All options in one line for debug messages. -/
def debugLine (options : Options) : String :=
  "Cli \x7b project: " ++ debugProject options.project ++
    ", format: " ++ options.form.debugName ++
    ", list_rules: " ++ debugBool options.listRules ++
    ", debug: " ++ debugBool options.debug ++ " \x7d"

end Options

end ManifestAudit
