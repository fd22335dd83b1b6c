import ManifestAudit.Audit.Report
import ManifestAudit.Json.Printer

/-!
# Reports for programs

A report as a JSON object: the diagnostics, the suggestions and a summary of
counts. A diagnostic has a file and a line exactly when it has a location. Each
part can be read back from its value.
-/

namespace ManifestAudit

namespace Kind

/-- All kinds. -/
def all : List Kind := [duplicate, stdlibAsDependency, heavyInMain]

/-- The name of a kind, its words written together. -/
def joinedName : Kind → String
  | duplicate => "Duplicate"
  | stdlibAsDependency => "StdlibAsDep"
  | heavyInMain => "HeavyInMain"

/-- A name in capitals, with an underscore in front of every word but the first. -/
def inCapitals : List Char → List Char
  | [] => []
  | first :: rest =>
    first.toUpper :: rest.flatMap fun c => if c.isUpper then ['_', c] else [c.toUpper]

/-- The name of a kind in a document. -/
def tag (kind : Kind) : String := String.ofList (inCapitals kind.joinedName.toList)

/-- The kind that a name in a document stands for. -/
def ofTag? (text : String) : Option Kind := all.find? fun kind => kind.tag == text

/-- Documents name a kind by the label that people see. -/
theorem tag_eq_label (kind : Kind) : kind.tag = kind.label := by
  cases kind <;> decide

@[simp] theorem ofTag?_tag (kind : Kind) : ofTag? kind.tag = some kind := by
  cases kind <;> decide

end Kind

/-- The counts of a report. -/
structure Summary where
  total : Nat
  duplicates : Nat
  stdlibAsDependency : Nat
  heavyInMain : Nat
  suggestions : Nat
deriving DecidableEq, Repr

namespace Diagnostic

/-- The fields that say where a diagnostic belongs. -/
def locationFields : Option Location → List (String × Json)
  | none => []
  | some location => [("file", .text location.file), ("line", .natural location.line)]

/-- A diagnostic as a value. -/
def value (diagnostic : Diagnostic) : Json :=
  .object (("kind", .text diagnostic.kind.tag) :: ("package", .text diagnostic.package) ::
    ("message", .text diagnostic.message) :: locationFields diagnostic.location)

/-- The location that the fields after the message give. -/
def locationOf? : List (String × Json) → Option (Option Location)
  | [] => some none
  | [("file", .text file), ("line", line)] => line.natural?.map fun number => some ⟨file, number⟩
  | _ => none

/-- The diagnostic that a value stands for. -/
def ofValue? : Json → Option Diagnostic
  | .object (("kind", .text tag) :: ("package", .text package) :: ("message", .text message) ::
      location) =>
    match Kind.ofTag? tag, locationOf? location with
    | some kind, some location => some ⟨kind, package, message, location⟩
    | _, _ => none
  | _ => none

@[simp] theorem locationOf?_locationFields (location : Option Location) :
    locationOf? (locationFields location) = some location := by
  cases location <;> simp [locationFields, locationOf?]

/-- A diagnostic is read back from its value. -/
@[simp] theorem ofValue?_value (diagnostic : Diagnostic) :
    ofValue? diagnostic.value = some diagnostic := by
  simp [value, ofValue?]

end Diagnostic

namespace Summary

/-- Counts as a value. -/
def value (summary : Summary) : Json :=
  .object
    [("total", .natural summary.total),
     ("duplicates", .natural summary.duplicates),
     ("stdlib_as_dep", .natural summary.stdlibAsDependency),
     ("heavy_in_main", .natural summary.heavyInMain),
     ("suggestions", .natural summary.suggestions)]

/-- The counts that a value stands for. -/
def ofValue? : Json → Option Summary
  | .object [("total", total), ("duplicates", duplicates), ("stdlib_as_dep", stdlib),
      ("heavy_in_main", heavy), ("suggestions", suggestions)] =>
    match total.natural?, duplicates.natural?, stdlib.natural?, heavy.natural?,
      suggestions.natural? with
    | some total, some duplicates, some stdlib, some heavy, some suggestions =>
      some ⟨total, duplicates, stdlib, heavy, suggestions⟩
    | _, _, _, _, _ => none
  | _ => none

/-- Counts are read back from their value. -/
@[simp] theorem ofValue?_value (summary : Summary) : ofValue? summary.value = some summary := by
  simp [value, ofValue?]

end Summary

namespace Report

/-- The counts of a report. -/
def summary (report : Report) : Summary where
  total := report.diagnostics.length
  duplicates := report.count .duplicate
  stdlibAsDependency := report.count .stdlibAsDependency
  heavyInMain := report.count .heavyInMain
  suggestions := report.suggestions.length

/-- A report as a value. -/
def value (report : Report) : Json :=
  .object
    [("diagnostics", .array (report.diagnostics.map Diagnostic.value)),
     ("suggestions", .array (report.suggestions.map .text)),
     ("summary", report.summary.value)]

/-- The report that a value stands for, and the counts that go with it. -/
def ofValue? : Json → Option (Report × Summary)
  | .object [("diagnostics", .array diagnostics), ("suggestions", .array suggestions),
      ("summary", summary)] =>
    match diagnostics.mapM Diagnostic.ofValue?, suggestions.mapM Json.text?,
      Summary.ofValue? summary with
    | some diagnostics, some suggestions, some summary => some (⟨diagnostics, suggestions⟩, summary)
    | _, _, _ => none
  | _ => none

/-- Reading back each of several written things gives the things. -/
theorem mapM_read_map_write {α β : Type} {write : α → β} {read : β → Option α}
    (readBack : ∀ thing, read (write thing) = some thing) (things : List α) :
    (things.map write).mapM read = some things := by
  induction things with
  | nil => rfl
  | cons first rest inductionHypothesis =>
    rw [List.map_cons, List.mapM_cons, readBack, inductionHypothesis]
    rfl

/-- A report and its counts are read back from its value. -/
@[simp] theorem ofValue?_value (report : Report) :
    ofValue? report.value = some (report, report.summary) := by
  simp [value, ofValue?, mapM_read_map_write Diagnostic.ofValue?_value,
    mapM_read_map_write (fun _ => rfl : ∀ text, Json.text? (.text text) = some text)]

end Report

end ManifestAudit
