import ManifestAudit.Command
import ManifestAudit.Log.Filter
import ManifestAudit.Options.Help
import ManifestAudit.Options.Parse

/-!
# Invocations

One run of the program from its arguments to its exit code. The output stream
carries help or a report and nothing else; log lines and what went wrong go to the
error stream. The exit code is that of the report, 2 for wrong arguments and 1
where the run could not do what was asked.
-/

namespace ManifestAudit

/-- What a run finds around it. -/
structure Surroundings where
  /-- The current directory, if it can be told. -/
  currentDirectory : Except IoError String
  /-- The files. -/
  read : Reader
  /-- What the environment asks to have logged. -/
  logging : Option String
  /-- The output stream. -/
  output : Sink

/-- What a run says on the error stream. -/
inductive Notice
  /-- An event was logged. -/
  | logged (event : Event)
  /-- The run could not do what was asked. -/
  | failed (text : String)
  /-- The arguments are wrong. -/
  | misused (error : UsageError)
deriving DecidableEq, Repr

/-- The text of a notice. -/
def Notice.text : Notice → String
  | logged event => Text.logged event.line
  | failed text => "Error: " ++ text
  | misused error => error.printedMessage

/-- How a run ended. -/
structure Outcome where
  exitCode : Nat
  output : Sink
  notices : List Notice

/-- The text on the error stream. Each notice is followed by a line feed, and may hold others. -/
def Outcome.errorText (outcome : Outcome) : String :=
  String.join (outcome.notices.map fun notice => notice.text ++ "\n")

namespace Invocation

/-- Exit code of a run that could not do what was asked. -/
def fatalCode : Nat := 1

/-- A run that only shows a text. That the text cannot be shown is no failure. -/
def showing (output : Sink) (text : String) : Outcome := ⟨0, (output.deliver [text]).1, []⟩

/-- A run that is not started. -/
def interrupted (output : Sink) : Interruption → Outcome
  | .help length => showing output length.text
  | .version => showing output versionText
  | .usage error => ⟨UsageError.exitCode, output, [.misused error]⟩

/-- The exit code of a command and what is said about its failure. -/
def concluded : Except Failure Verdict → Nat × List Notice
  | .ok verdict => (verdict.exitCode, [])
  | .error failure => (fatalCode, [.failed failure.message])

/-- Do what the options ask for at a project root. -/
def perform (surroundings : Surroundings) (options : Options) (root : String) :
    Logged (Sink × Except Failure Verdict) :=
  if options.listRules then .silent (Command.listRules surroundings.output)
  else (Command.standard root options.form).execute surroundings.read surroundings.output

/-- The notices of the events that a filter lets through. -/
def logNotices (filter : Filter) (events : List Event) : List Notice :=
  (events.filter filter.admits).map .logged

/-- Run with the options that were read. -/
def runWith (surroundings : Surroundings) (options : Options) : Outcome :=
  let filter := Filter.ofRun options.debug surroundings.logging
  match projectRoot options.project surroundings.currentDirectory with
  | .error failure =>
    ⟨fatalCode, surroundings.output,
      logNotices filter [.starting options] ++ [.failed failure.spelledOut]⟩
  | .ok root =>
    let performed := Logged.after (.starting options) (perform surroundings options root)
    let (exitCode, notices) := concluded performed.result.2
    ⟨exitCode, performed.result.1, logNotices filter performed.events ++ notices⟩

/-- Run with arguments. -/
def run (surroundings : Surroundings) (arguments : List String) : Outcome :=
  match Options.parse arguments with
  | .error interruption => interrupted surroundings.output interruption
  | .ok options => runWith surroundings options

/-- The paths that a run with these arguments may read. -/
def pathsToRead (currentDirectory : Except IoError String) (arguments : List String) :
    List String :=
  match Options.parse arguments with
  | .error _ => []
  | .ok options =>
    match projectRoot options.project currentDirectory with
    | .error _ => []
    | .ok root =>
      let layout := Layout.discover root
      if options.listRules then [] else [layout.primary, layout.supplementary]

end Invocation

end ManifestAudit
