import ManifestAudit.Proofs.Report.Decoding

/-!
# Places in a report

A diagnostic may say where it belongs, and that is all that a place decides in a report.
The human form and the exit code do not depend on places at all, and the document of a
report only in the values of its fields `file` and `line`. `Json.masked` blanks the
values of named fields in a document, so that documents which are equal when masked
differ at most there.

Reports that become equal once their diagnostics are moved are the same but for their
places (`sameButPlaces_of_relocated`).
-/

namespace ManifestAudit

namespace Json

mutual

/-- The value with nothing in the fields of the given names, however deep they stand. -/
def masked (names : List String) : Json → Json
  | null => null
  | bool value => bool value
  | number numeral => number numeral
  | text value => text value
  | array items => array (maskedItems names items)
  | object fields => object (maskedFields names fields)

/-- The items of an array with nothing in such fields. -/
def maskedItems (names : List String) : List Json → List Json
  | [] => []
  | item :: rest => masked names item :: maskedItems names rest

/-- The fields of an object with nothing in such fields. -/
def maskedFields (names : List String) : List (String × Json) → List (String × Json)
  | [] => []
  | (name, value) :: rest =>
    (name, if name ∈ names then null else masked names value) :: maskedFields names rest

end

/-- The items of an array are masked one by one. -/
theorem maskedItems_eq_map (names : List String) (items : List Json) :
    maskedItems names items = items.map (masked names) := by
  induction items with
  | nil => rfl
  | cons item rest inductionHypothesis => rw [maskedItems, inductionHypothesis, List.map_cons]

end Json

namespace Diagnostic

/-- The diagnostic at another place, if it has one. -/
def relocated (move : Location → Location) (diagnostic : Diagnostic) : Diagnostic :=
  { diagnostic with location := diagnostic.location.map move }

/-- The fields of a document that say where a diagnostic belongs. -/
def placeFields : List String := ["file", "line"]

/-- The value of a moved diagnostic differs in its place alone. -/
theorem masked_value_relocated (move : Location → Location) (diagnostic : Diagnostic) :
    (diagnostic.relocated move).value.masked placeFields = diagnostic.value.masked placeFields := by
  obtain ⟨kind, package, message, location⟩ := diagnostic
  cases location with
  | none => rfl
  | some place =>
    simp only [relocated, value, locationFields, Option.map_some, Json.masked, Json.maskedFields,
      placeFields, List.mem_cons, true_or, or_true, if_true]

end Diagnostic

namespace Report

/-- The report with its diagnostics at other places. -/
def relocated (move : Location → Location) (report : Report) : Report :=
  { report with diagnostics := report.diagnostics.map (Diagnostic.relocated move) }

/-- Moves that agree on all places of a report move it alike. -/
theorem relocated_congr {move other : Location → Location} {report : Report}
    (agree : ∀ diagnostic ∈ report.diagnostics, ∀ place ∈ diagnostic.location,
      move place = other place) : report.relocated move = report.relocated other := by
  have sameDiagnostics : report.diagnostics.map (Diagnostic.relocated move) =
      report.diagnostics.map (Diagnostic.relocated other) := by
    refine List.map_congr_left fun diagnostic member => ?_
    rw [Diagnostic.relocated, Diagnostic.relocated,
      Option.map_congr (agree diagnostic member)]
  rw [Report.relocated, Report.relocated, sameDiagnostics]

/-- The report without places. -/
def unlocated (report : Report) : Report :=
  { report with diagnostics := report.diagnostics.map Diagnostic.unlocated }

/-- Moving diagnostics changes nothing once places are left out. -/
theorem unlocated_relocated (move : Location → Location) (report : Report) :
    (report.relocated move).unlocated = report.unlocated := by
  rw [unlocated, relocated, List.map_map]
  rfl

/-- A report with moved diagnostics is clean exactly if it was. -/
theorem isClean_relocated (move : Location → Location) (report : Report) :
    (report.relocated move).isClean = report.isClean := by
  rw [isClean, isClean, relocated, List.isEmpty_map]

/-- The exit code does not depend on places. -/
theorem exitCode_relocated (move : Location → Location) (report : Report) :
    (report.relocated move).exitCode = report.exitCode := by
  rw [exitCode, exitCode, isClean_relocated]

/-- The human form does not depend on places. -/
theorem written_human_relocated (move : Location → Location) (report : Report) :
    (report.relocated move).written .human = report.written .human := by
  have sameLines : (report.relocated move).humanLines = report.humanLines := by
    rw [humanLines, humanLines, isClean_relocated, relocated, List.map_map]
    rfl
  rw [written, written, pieces, pieces, sameLines]

/-- The counts of a report do not depend on places. -/
theorem summary_relocated (move : Location → Location) (report : Report) :
    (report.relocated move).summary = report.summary := by
  have counted (kind : Kind) : (report.relocated move).count kind = report.count kind := by
    rw [count, count, relocated, List.countP_map]
    rfl
  have total : (report.relocated move).diagnostics.length = report.diagnostics.length := by
    rw [relocated, List.length_map]
  rw [summary, summary, counted, counted, counted, total]
  rfl

/-- The value of a report with moved diagnostics differs in places alone. -/
theorem masked_value_relocated (move : Location → Location) (report : Report) :
    (report.relocated move).value.masked Diagnostic.placeFields =
      report.value.masked Diagnostic.placeFields := by
  have diagnostics :
      ((report.relocated move).diagnostics.map Diagnostic.value).map
          (Json.masked Diagnostic.placeFields) =
        (report.diagnostics.map Diagnostic.value).map (Json.masked Diagnostic.placeFields) := by
    rw [relocated, List.map_map, List.map_map, List.map_map]
    exact List.map_congr_left fun diagnostic _ =>
      Diagnostic.masked_value_relocated move diagnostic
  have suggestions : (report.relocated move).suggestions = report.suggestions := rfl
  simp only [value, Json.masked, Json.maskedFields, Json.maskedItems_eq_map, diagnostics,
    suggestions, summary_relocated]

/-- Two reports say the same but for places. -/
structure SameButPlaces (left right : Report) : Prop where
  /-- Without places they have the same diagnostics in the same order, and the same
  suggestions. -/
  unlocated_eq : left.unlocated = right.unlocated
  /-- They tell people the same. -/
  human_eq : left.written .human = right.written .human
  /-- They have the same exit code. -/
  exitCode_eq : left.exitCode = right.exitCode
  /-- Their JSON forms are documents of values that are read back and that differ at
  most in what the fields for places hold. -/
  json_masked_eq : ∃ leftValue rightValue : Json,
    left.written .json = leftValue.document ++ "\n" ∧
      right.written .json = rightValue.document ++ "\n" ∧
      Json.parse? (left.written .json).toList = some leftValue ∧
      Json.parse? (right.written .json).toList = some rightValue ∧
      leftValue.masked ["file", "line"] = rightValue.masked ["file", "line"]

/-- Reports that are equal once their diagnostics are moved are the same but for
places. -/
theorem sameButPlaces_of_relocated {move : Location → Location} {left right : Report}
    (same : left.relocated move = right.relocated move) : left.SameButPlaces right where
  unlocated_eq := by
    rw [← unlocated_relocated move left, same, unlocated_relocated]
  human_eq := by
    rw [← written_human_relocated move left, same, written_human_relocated]
  exitCode_eq := by
    rw [← exitCode_relocated move left, same, exitCode_relocated]
  json_masked_eq := by
    refine ⟨left.value, right.value, written_json left, written_json right,
      parse?_written_json left, parse?_written_json right, ?_⟩
    have masks := masked_value_relocated move left
    rw [same, masked_value_relocated] at masks
    exact masks.symm

end Report

end ManifestAudit
