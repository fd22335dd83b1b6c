import ManifestAudit.Audit.Engine
import ManifestAudit.Files.Sink
import ManifestAudit.Manifest.Layout
import ManifestAudit.Manifest.Load
import ManifestAudit.Report.Written

/-!
# Commands

A command audits the project at a root, writes the report, or lists the built-in
rules. It ends with a verdict or with a failure. Nothing is written unless both
manifests could be loaded.
-/

namespace ManifestAudit

/-- The root of the project: the one that was asked for, else the current
directory. -/
def projectRoot (asked : Option String) (current : Except IoError String) :
    Except Failure String :=
  match asked, current with
  | some root, _ => .ok root
  | none, .ok root => .ok root
  | none, .error cause =>
    .error (.other (.during "Cannot determine current directory" cause.asCause))

/-- A project to audit, the form of its report and what is known about names. -/
structure Command where
  root : String
  form : ReportForm
  config : Config

namespace Command

/-- A command that uses the standard configuration. -/
def standard (root : String) (form : ReportForm) : Command := ⟨root, form, .standard⟩

/-- Load both manifests of the project, the primary one first. -/
def loadBoth (read : Reader) (layout : Layout) : Logged (Except Failure (Manifest × Manifest)) :=
  (Manifest.load read layout.primary).andThen fun primary =>
    (Manifest.load read layout.supplementary).andThen fun supplementary =>
      .silent (.ok (primary, supplementary))

/-- Load both manifests and audit them. -/
def audit (read : Reader) (command : Command) : Logged (Except Failure Report) :=
  let layout := Layout.discover command.root
  .after (.auditing layout) <|
    (loadBoth read layout).andThen fun (primary, supplementary) =>
      (Audit.run .builtin command.config primary supplementary).succeed

/-- Hand texts to an output; the verdict stands only if all of them get through. -/
def deliver (sink : Sink) (texts : List String) (verdict : Verdict) :
    Sink × Except Failure Verdict :=
  match sink.deliver texts with
  | (reached, .ok ()) => (reached, .ok verdict)
  | (reached, .error cause) => (reached, .error (.io cause))

/-- Write what a report says and judge by it; without a report nothing is
written. -/
def conclude (sink : Sink) (form : ReportForm) (audited : Except Failure Report) :
    Sink × Except Failure Verdict :=
  match audited with
  | .error failure => (sink, .error failure)
  | .ok report => deliver sink (report.pieces form) report.verdict

/-- Audit the project and write the report. -/
def execute (read : Reader) (sink : Sink) (command : Command) :
    Logged (Sink × Except Failure Verdict) :=
  (command.audit read).map (conclude sink command.form)

/-- The line that describes a rule. -/
def ruleLine (rule : Rule) : String :=
  rule.id ++ ": " ++ rule.name ++ " - " ++ rule.description ++ "\n"

/-- List the built-in rules, whatever the project. -/
def listRules (sink : Sink) : Sink × Except Failure Verdict :=
  deliver sink (Registry.builtin.rules.map ruleLine) .success

end Command

end ManifestAudit
