import ManifestAudit.Audit.Config
import ManifestAudit.Audit.Diagnostic
import ManifestAudit.Manifest.Basic

/-!
# Rules

A rule looks at both manifests and the configuration and lists its findings. No
rule sees what another one found. Three rules are built in: repeated packages,
standard-library modules and heavy packages, each about the primary manifest.
Callers may bring rules of their own; `Rule.watching` makes one from a list of
names.
-/

namespace ManifestAudit

/-- All that a rule may look at. -/
structure Context where
  primary : Manifest
  supplementary : Manifest
  config : Config

/-- A check with its description. Rules are told apart by their id alone. -/
structure Rule where
  id : String
  name : String
  description : String
  kind : Kind
  check : Context → List Diagnostic

namespace Rule

/-- The diagnostic of an entry, located at the entry's line. -/
def diagnosticAt (kind : Kind) (manifest : Manifest) (message : String → String) (entry : Entry) :
    Diagnostic :=
  ⟨kind, entry.name, message entry.name, some ⟨manifest.path, entry.line⟩⟩

/-- One located diagnostic for each entry whose name passes a test, in order. -/
def reportEach (kind : Kind) (manifest : Manifest) (test : String → Bool)
    (message : String → String) : List Diagnostic :=
  (manifest.entries.filter fun entry => test entry.name).map (diagnosticAt kind manifest message)

/-- The entries that repeat a name for the first time, given the names seen so
far and those of them that were found to repeat. Each repeated name comes once,
at its second listing. -/
def firstRepeats (seen repeated : List String) : List Entry → List Entry
  | [] => []
  | entry :: rest =>
    if entry.name ∉ seen then firstRepeats (entry.name :: seen) repeated rest
    else if entry.name ∉ repeated then entry :: firstRepeats seen (entry.name :: repeated) rest
    else firstRepeats seen repeated rest

/-- Reports a package where it is listed for the second time. -/
def duplicatePackage : Rule where
  id := "duplicate-package"
  name := "Duplicate Package"
  description := "Detects packages listed more than once"
  kind := .duplicate
  check context :=
    (firstRepeats [] [] context.primary.entries).map <|
      diagnosticAt .duplicate context.primary fun name =>
        "Package '" ++ name ++ "' is listed more than once"

/-- Reports every listing of a standard-library name. -/
def stdlibAsDependency : Rule where
  id := "stdlib-as-dependency"
  name := "Stdlib As Dependency"
  description := "Detects standard-library modules listed as external dependencies"
  kind := .stdlibAsDependency
  check context :=
    reportEach .stdlibAsDependency context.primary context.config.isStdlib fun name =>
      "'" ++ name ++ "' is part of the standard library and should not be a dependency"

/-- Reports every listing of a heavy package. -/
def heavyInMain : Rule where
  id := "heavy-in-main"
  name := "Heavy In Main"
  description := "Detects heavy optional packages in the primary manifest"
  kind := .heavyInMain
  check context :=
    reportEach .heavyInMain context.primary context.config.isHeavy fun name =>
      "'" ++ name ++ "' is a heavy package; move it to '" ++ context.config.supplementaryName ++ "'"

/-- The built-in rules in the order in which they run. -/
def builtins : List Rule := [duplicatePackage, stdlibAsDependency, heavyInMain]

/-- Which entries a watching rule reports and what it says of them. -/
structure Watch where
  /-- The names to report. -/
  names : List String
  /-- Look at the supplementary manifest in place of the primary one. -/
  inSupplementary : Bool
  /-- Say on which line the name stands. -/
  located : Bool
  /-- The sentence of every finding. -/
  message : String

/-- The findings of a watching rule, in the order of the entries. -/
def Watch.check (watch : Watch) (kind : Kind) (context : Context) : List Diagnostic :=
  let manifest := if watch.inSupplementary then context.supplementary else context.primary
  let found := reportEach kind manifest watch.names.contains fun _ => watch.message
  if watch.located then found else found.map Diagnostic.unlocated

/-- A rule that reports every listing of the watched names. -/
def watching (id name description : String) (kind : Kind) (watch : Watch) : Rule where
  id := id
  name := name
  description := description
  kind := kind
  check := watch.check kind

end Rule

end ManifestAudit
