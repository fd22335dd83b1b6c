import ManifestAudit.Proofs.Report.Decoding
import ManifestAudit.Proofs.Report.HumanReading

/-!
# The two forms of a report agree

A document can be retold to people by somebody who knows its fields and nothing of
kinds: the label of a finding is the name that the document gives for its kind. That is
enough because documents and people are told the same names (`Kind.tag_eq_label`). Retold
in this way, the document of a report is the human form of that report, character for
character. Its counts are those of the findings that it lists and also those of the
labels on the human lines.

A transcript is what such a reader takes from a document. Its fields are looked up by
name, so that neither their order nor further fields matter.
-/

namespace ManifestAudit

namespace Json

/-- The value of a field of an object, the first one with that name. -/
def field? (name : String) : Json → Option Json
  | object fields => fields.lookup name
  | _ => none

/-- A field is looked for in the order of the fields. -/
theorem field?_cons (name key : String) (value : Json) (rest : List (String × Json)) :
    (object ((key, value) :: rest)).field? name =
      if name = key then some value else (object rest).field? name := by
  rw [field?, List.lookup_cons]
  by_cases same : name = key
  · rw [if_pos same, beq_iff_eq.2 same]
  · rw [if_neg same, beq_eq_false_iff_ne.2 same, field?]

/-- The items that a value lists. -/
def items? : Json → Option (List Json)
  | array items => some items
  | _ => none

end Json

/-- The counts of findings by the label of their kind. -/
def Summary.byLabel (summary : Summary) : List (String × Nat) :=
  [("DUPLICATE", summary.duplicates), ("STDLIB_AS_DEP", summary.stdlibAsDependency),
   ("HEAVY_IN_MAIN", summary.heavyInMain)]

/-- What a document says of a report: the label and the package of each finding, the
suggestions, and the counts. -/
structure Transcript where
  findings : List (String × String)
  suggestions : List String
  counts : Summary

namespace Transcript

/-- The label and the package of a finding in a document. -/
def finding? (finding : Json) : Option (String × String) := do
  let label ← (← finding.field? "kind").text?
  let package ← (← finding.field? "package").text?
  return (label, package)

/-- The counts in a document. -/
def counts? (summary : Json) : Option Summary := do
  let total ← (← summary.field? "total").natural?
  let duplicates ← (← summary.field? "duplicates").natural?
  let stdlib ← (← summary.field? "stdlib_as_dep").natural?
  let heavy ← (← summary.field? "heavy_in_main").natural?
  let suggestions ← (← summary.field? "suggestions").natural?
  return ⟨total, duplicates, stdlib, heavy, suggestions⟩

/-- What a document says, if it has the fields of a report. -/
def ofDocument? (document : Json) : Option Transcript := do
  let findings ← (← (← document.field? "diagnostics").items?).mapM finding?
  let suggestions ← (← (← document.field? "suggestions").items?).mapM Json.text?
  let counts ← counts? (← document.field? "summary")
  return ⟨findings, suggestions, counts⟩

/-- What a transcript tells people, line by line. -/
def lines (transcript : Transcript) : List String :=
  if transcript.findings.isEmpty && transcript.suggestions.isEmpty then
    ["OK: No issues found in requirements."]
  else
    transcript.findings.map (fun (label, package) => label ++ ": " ++ package) ++
      transcript.suggestions.map ("SUGGESTION: " ++ ·)

/-- The transcript as a text for people. -/
def text (transcript : Transcript) : String := String.join (transcript.lines.map (· ++ "\n"))

/-- The name of a kind and the package are read from the value of a diagnostic. -/
theorem finding?_value (diagnostic : Diagnostic) :
    finding? diagnostic.value = some (diagnostic.kind.tag, diagnostic.package) := rfl

/-- Counts are read from their value. -/
theorem counts?_value (summary : Summary) : counts? summary.value = some summary := by
  simp [counts?, Summary.value, Json.field?_cons]

end Transcript

namespace Report

/-- What the document of a report says. -/
def transcript (report : Report) : Transcript where
  findings := report.diagnostics.map fun diagnostic => (diagnostic.kind.tag, diagnostic.package)
  suggestions := report.suggestions
  counts := report.summary

/-- The value of a report says what the report does. -/
theorem ofDocument?_value (report : Report) :
    Transcript.ofDocument? report.value = some report.transcript := by
  have findings : (report.diagnostics.map Diagnostic.value).mapM Transcript.finding? =
      some (report.diagnostics.map fun diagnostic =>
        (diagnostic.kind.tag, diagnostic.package)) := by
    have each : Transcript.finding? ∘ Diagnostic.value =
        fun diagnostic => some (diagnostic.kind.tag, diagnostic.package) :=
      funext Transcript.finding?_value
    rw [List.mapM_map, each]
    exact List.mapM_pure
  have suggestions : (report.suggestions.map Json.text).mapM Json.text? =
      some report.suggestions :=
    mapM_read_map_write (fun _ => rfl : ∀ text, Json.text? (.text text) = some text) _
  simp [Transcript.ofDocument?, value, Json.field?_cons, Json.items?, findings, suggestions,
    Transcript.counts?_value, transcript]

/-- The document of a report, retold to people, is the human form of the report. -/
theorem text_transcript (report : Report) : report.transcript.text = report.written .human := by
  have sameLines : report.transcript.lines = report.humanLines := by
    cases cleanness : report.isClean with
    | true =>
      obtain rfl := isClean_iff.1 cleanness
      rfl
    | false =>
      have something : (report.transcript.findings.isEmpty &&
          report.transcript.suggestions.isEmpty) = false := by
        simpa [transcript, isClean] using cleanness
      rw [Transcript.lines, something, humanLines, cleanness]
      simp only [Bool.false_eq_true, if_false, transcript, List.map_map, Function.comp_def,
        Kind.tag_eq_label]
      rfl
  rw [Transcript.text, sameLines, written_human]

/-- Every diagnostic has one of the three kinds. -/
theorem total_eq_sum (report : Report) :
    report.diagnostics.length =
      report.count .duplicate + report.count .stdlibAsDependency + report.count .heavyInMain := by
  obtain ⟨diagnostics, suggestions⟩ := report
  unfold count
  induction diagnostics with
  | nil => rfl
  | cons first rest inductionHypothesis =>
    simp only [List.countP_cons, List.length_cons] at inductionHypothesis ⊢
    rw [inductionHypothesis]
    cases kind : first.kind <;> simp <;> omega

/-- The findings in a document that have the label of a kind are as many as the
diagnostics of that kind. -/
theorem countP_findings (report : Report) (kind : Kind) :
    report.transcript.findings.countP (fun finding => finding.1 = kind.label) =
      report.count kind := by
  rw [transcript, count, List.countP_map]
  refine List.countP_congr fun diagnostic _ => ?_
  simp [Kind.tag_eq_label, Kind.label_inj]

/-- The label of a line for people: what stands in front of the first colon that a
blank follows. -/
def labelOf? (line : String) : Option String :=
  (Remark.cutLabel line.toList).map fun cut => String.ofList cut.1

/-- A remark with its line end still has its label. -/
theorem labelOf?_labelled {label : String} (noColon : ':' ∉ label.toList) (text : String) :
    labelOf? (labelled label text ++ "\n") = some label := by
  have whole : (labelled label text ++ "\n").toList =
      label.toList ++ ':' :: ' ' :: (text.toList ++ ['\n']) := by
    rw [String.toList_append, Remark.toList_labelled, List.append_assoc]
    rfl
  rw [labelOf?, whole, Remark.cutLabel_labelled noColon, Option.map_some, String.ofList_toList]

/-- The human lines that have the label of a kind are as many as the diagnostics of that
kind: no suggestion has it, and neither has the line of a clean report. -/
theorem countP_pieces (report : Report) (kind : Kind) :
    (report.pieces .human).countP (fun entry => labelOf? entry = some kind.label) =
      report.count kind := by
  cases cleanness : report.isClean with
  | true =>
    obtain rfl := isClean_iff.1 cleanness
    cases kind <;> decide
  | false =>
    have found : ∀ diagnostic : Diagnostic,
        labelOf? (diagnosticLine diagnostic ++ "\n") = some diagnostic.kind.label := by
      intro diagnostic
      exact labelOf?_labelled (Remark.colon_not_mem_label diagnostic.kind) diagnostic.package
    have suggested : ∀ text : String,
        labelOf? (labelled suggestionLabel text ++ "\n") = some suggestionLabel := by
      intro text
      exact labelOf?_labelled Remark.colon_not_mem_suggestionLabel text
    have apart : suggestionLabel ≠ kind.label := by cases kind <;> decide
    rw [pieces, humanLines, cleanness, if_neg Bool.false_ne_true, List.map_append,
      List.countP_append]
    simp [found, suggested, apart, Kind.label_inj, count, Function.comp_def]

/-- The two forms of a report agree. The document of a report, decoded by the names of
its fields and retold line by line, is the human form. Its total is the sum of its three
counts and the number of its findings; each of the three counts is the number of
findings with that label, and of human lines with that label; and its last count is the
number of its suggestions. -/
theorem document_retold (report : Report) :
    ∃ transcript : Transcript,
      (Json.parse? (report.written .json).toList).bind Transcript.ofDocument? = some transcript ∧
      transcript.text = report.written .human ∧
      transcript.counts.total = transcript.counts.duplicates +
        transcript.counts.stdlibAsDependency + transcript.counts.heavyInMain ∧
      transcript.counts.total = transcript.findings.length ∧
      (∀ entry ∈ transcript.counts.byLabel,
        entry.2 = transcript.findings.countP (fun finding => finding.1 = entry.1) ∧
          entry.2 = (report.pieces .human).countP (fun line => labelOf? line = some entry.1)) ∧
      transcript.counts.suggestions = transcript.suggestions.length := by
  refine ⟨report.transcript, ?_, text_transcript report, total_eq_sum report, ?_, ?_, rfl⟩
  · rw [parse?_written_json, Option.bind_some, ofDocument?_value]
  · rw [transcript, List.length_map]
    rfl
  · have ofKind : ∀ kind : Kind,
        report.count kind = report.transcript.findings.countP (fun finding =>
            finding.1 = kind.label) ∧
          report.count kind = (report.pieces .human).countP (fun line =>
            labelOf? line = some kind.label) := fun kind =>
      ⟨(countP_findings report kind).symm, (countP_pieces report kind).symm⟩
    intro entry listed
    rcases List.mem_cons.1 listed with rfl | listed
    · exact ofKind .duplicate
    rcases List.mem_cons.1 listed with rfl | listed
    · exact ofKind .stdlibAsDependency
    · obtain rfl := List.mem_singleton.1 listed
      exact ofKind .heavyInMain

end Report

end ManifestAudit
