import ManifestAudit.Proofs.Json.Reading
import ManifestAudit.Proofs.Json.Writing
import ManifestAudit.Report.Written

/-!
# Reading a written report back

The JSON form of a report is one document and a line end. Reading the document and
taking it for a report gives the report that was written, whatever characters its
texts hold, together with its counts. So the form loses nothing: reports that differ
at all have different texts.
-/

namespace ManifestAudit.Report

/-- The report that a text in JSON form stands for, with the counts that go with it. -/
def decode? (text : String) : Option (Report × Summary) :=
  (Json.parse? text.toList).bind ofValue?

/-- The JSON form is the document of the report and a line end. -/
theorem written_json (report : Report) :
    report.written .json = report.value.document ++ "\n" := by
  rw [written, pieces, String.join_cons, String.join_cons, String.join_nil, String.append_empty]

/-- The JSON form spells the value of the report; the line end is a blank behind it. -/
theorem spelling_written_json (report : Report) :
    Json.Spelling (report.written .json).toList (.item report.value) := by
  have lineEnd : Json.IsGap ['\n'] := fun c member => by
    rw [List.mem_singleton.1 member]
    decide
  have spelled := Json.Spelling.item Json.isGap_nil (Json.spelling_document report.value) lineEnd
  rw [List.nil_append] at spelled
  rwa [written_json, String.toList_append]

/-- The JSON form is read as the value of the report. -/
theorem parse?_written_json (report : Report) :
    Json.parse? (report.written .json).toList = some report.value :=
  Json.parse?_of_spelling (spelling_written_json report)

/-- A report and its counts are read back from the JSON form. -/
theorem decode?_written_json (report : Report) :
    decode? (report.written .json) = some (report, report.summary) := by
  rw [decode?, parse?_written_json, Option.bind_some, ofValue?_value]

/-- Reports with the same JSON form are the same. -/
theorem written_json_injective {left right : Report}
    (same : left.written .json = right.written .json) : left = right := by
  have leftRead := decode?_written_json left
  rw [same, decode?_written_json right, Option.some.injEq, Prod.mk.injEq] at leftRead
  exact leftRead.1.symm

/-- The grammar derives the JSON form of a report for the value of the report and for
no other, so every reader that follows the grammar reads the same. -/
theorem spelling_written_json_iff (report : Report) (value : Json) :
    Json.Spelling (report.written .json).toList (.item value) ↔ value = report.value := by
  constructor
  · intro spelled
    have read := Json.parse?_of_spelling spelled
    rw [parse?_written_json, Option.some.injEq] at read
    exact read.symm
  · rintro rfl
    exact spelling_written_json report

/-- The JSON form of a report is one document, followed by a line end, and the grammar
gives it one value; no text in it holds a character below U+0020 as it is; reading it
gives back the diagnostics and suggestions of the report in order and the counts of
the report; and no other report has the same form. -/
theorem written_json_exact (report : Report) :
    (report.written .json = report.value.document ++ "\n" ∧
      Json.Spelling report.value.document.toList (.value report.value)) ∧
    (∀ value, Json.Spelling (report.written .json).toList (.item value) ↔
      value = report.value) ∧
    (∀ before c after reader, (report.written .json).toList = before ++ c :: after →
      Json.Reader.start.run before = some reader → reader.lexeme.isInText = true →
        0x20 ≤ c.toNat) ∧
    decode? (report.written .json) =
      some (⟨report.diagnostics, report.suggestions⟩,
        { total := report.diagnostics.length
          duplicates := report.count .duplicate
          stdlibAsDependency := report.count .stdlibAsDependency
          heavyInMain := report.count .heavyInMain
          suggestions := report.suggestions.length }) ∧
    ∀ other : Report, other.written .json = report.written .json → other = report := by
  refine ⟨⟨written_json report, Json.spelling_document report.value⟩,
    spelling_written_json_iff report, ?_, decode?_written_json report,
    fun _ same => written_json_injective same⟩
  intro before c after reader cut reached inside
  have read := parse?_written_json report
  rw [cut] at read
  exact Json.printable_of_parse? read reached inside

end ManifestAudit.Report
