import ManifestAudit.Manifest.Layout
import ManifestAudit.Options.Basic

/-!
# Log events

A run tells what it does through events, all of one level. Each event has a
message and a target, the name of the part of the program that it is about;
targets are what a log filter chooses by.
-/

namespace ManifestAudit

/-- Something that happened during a run. -/
inductive Event
  /-- The run starts with these options. -/
  | starting (options : Options)
  /-- The two manifests to audit were located. -/
  | auditing (layout : Layout)
  /-- No manifest is at the path. -/
  | manifestMissing (path : String)
  /-- A manifest was read and lists so many entries. -/
  | manifestParsed (entries : Nat) (path : String)
  /-- A rule ran and gave so many diagnostics. -/
  | ruleChecked (id : String) (found : Nat)
  /-- There is no supplementary manifest, which earns a suggestion. -/
  | supplementaryMissing (path : String)
deriving DecidableEq, Repr

namespace Event

/-- The part of the program that an event is about. -/
def target : Event → String
  | starting _ => "reqaudit"
  | auditing _ => "reqaudit::cli::command"
  | manifestMissing _ => "reqaudit::manifest::parser"
  | manifestParsed _ _ => "reqaudit::manifest::parser"
  | ruleChecked _ _ => "reqaudit::audit::engine"
  | supplementaryMissing _ => "reqaudit::audit::engine"

/-- The names of the fields that an event carries: a message and nothing else. -/
def fieldNames (_ : Event) : List String := ["message"]

/-- What an event says. -/
def message : Event → String
  | starting options => "reqaudit starting with args: " ++ options.debugLine
  | auditing layout =>
    "Auditing " ++ layout.primary ++ " (supplementary: " ++ layout.supplementary ++ ")"
  | manifestMissing path => "Manifest not found at " ++ path
  | manifestParsed entries path => "Parsed " ++ toString entries ++ " entries from " ++ path
  | ruleChecked id found => "Rule " ++ id ++ " produced " ++ toString found ++ " diagnostic(s)"
  | supplementaryMissing path => "Supplementary manifest missing at " ++ path

/-- What a log shows of an event. This is one line unless a path in it holds a line feed. -/
def line (event : Event) : String := "DEBUG " ++ event.message

end Event

end ManifestAudit
