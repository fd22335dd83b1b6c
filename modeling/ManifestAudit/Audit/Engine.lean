import ManifestAudit.Audit.Registry
import ManifestAudit.Audit.Report
import ManifestAudit.Log.Logged

/-!
# Running an audit

Every rule of a registry runs on the same context, in registry order, and their
findings follow one another in that order. A supplementary manifest that is
missing earns one suggestion, whatever the rules found.
-/

namespace ManifestAudit.Audit

/-- The advice to split heavy packages off. -/
def splitSuggestion (config : Config) : String :=
  "Consider splitting heavy packages into '" ++ config.supplementaryName ++ "' (optional extras)."

/-- The suggestions for a context, and the event that goes with them. -/
def suggest (context : Context) : Logged (List String) :=
  if context.supplementary.isPresent then .silent []
  else ⟨[.supplementaryMissing context.supplementary.path], [splitSuggestion context.config]⟩

/-- What each rule found, in order, with the id of the rule. -/
def findings (rules : List Rule) (context : Context) : List (String × List Diagnostic) :=
  rules.map fun rule => (rule.id, rule.check context)

/-- The report that findings and suggestions make, with one event for each rule
that ran. -/
def gather (found : List (String × List Diagnostic)) (suggested : Logged (List String)) :
    Logged Report where
  events := (found.map fun (id, diagnostics) => .ruleChecked id diagnostics.length) ++
    suggested.events
  result := ⟨found.flatMap Prod.snd, suggested.result⟩

/-- Run all rules of a registry and collect their findings and the suggestions. -/
def run (registry : Registry) (config : Config) (primary supplementary : Manifest) :
    Logged Report :=
  gather (findings registry.rules ⟨primary, supplementary, config⟩)
    (suggest ⟨primary, supplementary, config⟩)

/-- The report of an audit. -/
def report (registry : Registry) (config : Config) (primary supplementary : Manifest) : Report :=
  (run registry config primary supplementary).result

/-- The report of an audit with the built-in rules. -/
def builtinReport (config : Config) (primary supplementary : Manifest) : Report :=
  report .builtin config primary supplementary

/-- What one rule alone reports; it makes no suggestions. -/
def reportOf (rule : Rule) (context : Context) : Report := ⟨rule.check context, []⟩

/-- The diagnostics of a report are those of the rules, one rule after another. -/
@[simp] theorem diagnostics_report (registry : Registry) (config : Config)
    (primary supplementary : Manifest) :
    (report registry config primary supplementary).diagnostics =
      registry.rules.flatMap fun rule => rule.check ⟨primary, supplementary, config⟩ := by
  simp [report, run, gather, findings, List.flatMap_map]

/-- There is one suggestion, and only where the supplementary manifest is
missing. -/
@[simp] theorem suggestions_report (registry : Registry) (config : Config)
    (primary supplementary : Manifest) :
    (report registry config primary supplementary).suggestions =
      if supplementary.isPresent then [] else [splitSuggestion config] := by
  unfold report run gather suggest
  cases supplementary.isPresent <;> rfl

end ManifestAudit.Audit
