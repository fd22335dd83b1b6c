import ManifestAudit.Proofs.Audit.Packages
import ManifestAudit.Report.Written

/-!
# Reading a report for people

A report for people shows a label and a text on each line, and nothing marks where a
text comes from. It can be trusted nevertheless: as long as no text holds a line feed,
the lines can be told apart, each of them can be read back, and together they say
which kinds were found of which packages and what was suggested, in order. The line of
a clean report is said of no other report.

The line feed is the only danger, and a requirements text cannot bring one in: names
hold no break at all.
-/

namespace ManifestAudit

namespace Report

/-- What one line of a report for people tells. -/
inductive Remark
  /-- A package and what is wrong with it. -/
  | finding (kind : Kind) (package : String)
  /-- An advice. -/
  | suggestion (text : String)
deriving DecidableEq, Repr

namespace Remark

/-- The label and the text of a line: what stands in front of the first colon that a
blank follows, and what stands behind the two. -/
def cutLabel : List Char → Option (List Char × List Char)
  | [] => none
  | c :: rest =>
    if c = ':' ∧ rest.head? = some ' ' then some ([], rest.tail)
    else (cutLabel rest).map fun (label, text) => (c :: label, text)

/-- What a line tells, if its label is known. -/
def read? (line : List Char) : Option Remark :=
  match cutLabel line with
  | none => none
  | some (label, text) =>
    if String.ofList label = "SUGGESTION" then some (suggestion (String.ofList text))
    else (Kind.ofLabel? (String.ofList label)).map (finding · (String.ofList text))

/-- The line that tells a remark. -/
def line : Remark → String
  | finding kind package => labelled kind.label package
  | suggestion text => labelled suggestionLabel text

/-- The text that a remark shows behind its label. -/
def shown : Remark → String
  | finding _ package => package
  | suggestion text => text

/-- A label without a colon is cut off whole, whatever its text holds. -/
theorem cutLabel_labelled {label : List Char} (noColon : ':' ∉ label) (text : List Char) :
    cutLabel (label ++ ':' :: ' ' :: text) = some (label, text) := by
  induction label with
  | nil => rfl
  | cons c rest inductionHypothesis =>
    have other : ¬ (c = ':' ∧ (rest ++ ':' :: ' ' :: text).head? = some ' ') := fun colon =>
      noColon (colon.1 ▸ List.mem_cons_self)
    have later : ':' ∉ rest := fun member => noColon (List.mem_cons_of_mem c member)
    rw [List.cons_append, cutLabel, if_neg other, inductionHypothesis later]
    rfl

/-- The characters of a labelled line. -/
theorem toList_labelled (label text : String) :
    (labelled label text).toList = label.toList ++ ':' :: ' ' :: text.toList := by
  rw [labelled, String.toList_append, String.toList_append, List.append_assoc]
  rfl

/-- The label of a kind holds no colon. -/
theorem colon_not_mem_label (kind : Kind) : ':' ∉ kind.label.toList := by
  cases kind <;> decide

/-- The label of a suggestion holds no colon. -/
theorem colon_not_mem_suggestionLabel : ':' ∉ suggestionLabel.toList := by
  decide

/-- A remark is read back from its line: the labels hold no colon, differ from each
other and name their kind. -/
theorem read?_line (remark : Remark) : read? remark.line.toList = some remark := by
  cases remark with
  | finding kind package =>
    have noSuggestion : kind.label ≠ "SUGGESTION" := by cases kind <;> decide
    rw [read?, line, toList_labelled, cutLabel_labelled (colon_not_mem_label kind)]
    simp [noSuggestion]
  | suggestion text =>
    rw [read?, line, toList_labelled, cutLabel_labelled colon_not_mem_suggestionLabel]
    simp [suggestionLabel]

/-- No remark starts like the line of a clean report. -/
theorem head?_line (remark : Remark) : remark.line.toList.head? ≠ some 'O' := by
  cases remark with
  | finding kind package =>
    rw [line, toList_labelled]
    cases kind <;> simp [Kind.label]
  | suggestion text =>
    rw [line, toList_labelled]
    simp [suggestionLabel]

/-- A remark is on one line if the text that it shows is. -/
theorem line_unbroken {remark : Remark} (unbroken : '\n' ∉ remark.shown.toList) :
    '\n' ∉ remark.line.toList := by
  cases remark with
  | finding kind package =>
    have inLabel : '\n' ∉ kind.label.toList := by cases kind <;> decide
    have inPackage : '\n' ∉ package.toList := unbroken
    simp [line, toList_labelled, inLabel, inPackage]
  | suggestion text =>
    have inLabel : '\n' ∉ suggestionLabel.toList := by decide
    have inText : '\n' ∉ text.toList := unbroken
    simp [line, toList_labelled, inLabel, inText]

end Remark

/-- What a report tells people: of each diagnostic the kind and the package, and then
the suggestions. -/
def remarks (report : Report) : List Remark :=
  report.diagnostics.map (fun diagnostic => .finding diagnostic.kind diagnostic.package) ++
    report.suggestions.map .suggestion

/-- The lines that line feeds end. What stands behind the last line feed is no line. -/
def fedLines (text : String) : List (List Char) := (text.toList.splitOn '\n').dropLast

/-- What a report for people tells, as far as its lines can be read. -/
def readRemarks? (text : String) : Option (List Remark) :=
  if text = successLine ++ "\n" then some []
  else (fedLines text).mapM Remark.read?

/-- No text that a report shows people holds a line feed. -/
structure OnLines (report : Report) : Prop where
  packages : ∀ diagnostic ∈ report.diagnostics, '\n' ∉ diagnostic.package.toList
  suggestions : ∀ text ∈ report.suggestions, '\n' ∉ text.toList

/-- The human form is its lines, each ended by a line feed. -/
theorem written_human (report : Report) :
    report.written .human = String.join (report.humanLines.map (· ++ "\n")) := rfl

/-- A report with something to say has a line for each remark. -/
theorem humanLines_of_not_isClean {report : Report} (unclean : report.isClean = false) :
    report.humanLines = report.remarks.map Remark.line := by
  rw [humanLines, unclean, remarks, List.map_append, List.map_map, List.map_map]
  rfl

/-- There is a remark for each diagnostic and each suggestion. -/
theorem length_remarks (report : Report) :
    report.remarks.length = report.diagnostics.length + report.suggestions.length := by
  simp [remarks]

/-- Only a clean report tells nothing. -/
theorem remarks_eq_nil_iff {report : Report} : report.remarks = [] ↔ report.isClean = true := by
  simp [remarks, isClean]

/-- Remarks determine the kinds with their packages and the suggestions. -/
theorem remarks_injective {left right : Report} (same : left.remarks = right.remarks) :
    left.diagnostics.map (fun diagnostic => (diagnostic.kind, diagnostic.package)) =
        right.diagnostics.map (fun diagnostic => (diagnostic.kind, diagnostic.package)) ∧
      left.suggestions = right.suggestions := by
  have findings := congrArg (List.filterMap fun remark =>
    match remark with
    | .finding kind package => some (kind, package)
    | .suggestion _ => none) same
  have suggestions := congrArg (List.filterMap fun remark =>
    match remark with
    | .finding _ _ => none
    | .suggestion text => some text) same
  constructor
  · simpa [remarks, List.filterMap_append, List.filterMap_map, Function.comp_def] using findings
  · simpa [remarks, List.filterMap_append, List.filterMap_map, Function.comp_def] using suggestions

/-- The remarks of a report are on one line each if its texts are. -/
theorem OnLines.shown {report : Report} (onLines : report.OnLines) :
    ∀ remark ∈ report.remarks, '\n' ∉ remark.shown.toList := by
  intro remark member
  rcases List.mem_append.1 member with found | suggested
  · obtain ⟨diagnostic, listed, rfl⟩ := List.mem_map.1 found
    exact onLines.packages diagnostic listed
  · obtain ⟨text, listed, rfl⟩ := List.mem_map.1 suggested
    exact onLines.suggestions text listed

/-- Every line of such a report is free of line feeds. -/
theorem OnLines.humanLines {report : Report} (onLines : report.OnLines) :
    ∀ line ∈ report.humanLines, '\n' ∉ line.toList := by
  cases cleanness : report.isClean with
  | true =>
    intro line member
    rw [Report.humanLines, cleanness, if_pos rfl] at member
    obtain rfl := List.mem_singleton.1 member
    decide
  | false =>
    rw [humanLines_of_not_isClean cleanness]
    intro line member
    obtain ⟨remark, told, rfl⟩ := List.mem_map.1 member
    exact Remark.line_unbroken (onLines.shown remark told)

/-- The characters of lines that a line feed ends each. -/
theorem toList_join_cons (line : String) (rest : List String) :
    (String.join ((line :: rest).map (· ++ "\n"))).toList =
      line.toList ++ '\n' :: (String.join (rest.map (· ++ "\n"))).toList := by
  rw [List.map_cons, String.join_cons, String.toList_append, String.toList_append,
    List.append_assoc]
  rfl

/-- Texts that a line feed ends each are cut apart again, each into the lines that its own line
feeds make of it. -/
theorem fedLines_join (texts : List String) :
    fedLines (String.join (texts.map (· ++ "\n"))) =
      texts.flatMap fun text => text.toList.splitOn '\n' := by
  rw [fedLines]
  induction texts with
  | nil => rfl
  | cons text rest inductionHypothesis =>
    rw [toList_join_cons, List.splitOn_append_cons_self,
      List.dropLast_append_of_ne_nil (List.splitOn_ne_nil _ _), inductionHypothesis,
      List.flatMap_cons]

/-- Lines that a line feed ends each end with a line feed. -/
theorem getLast?_join_cons (line : String) (rest : List String) :
    (String.join ((line :: rest).map (· ++ "\n"))).toList.getLast? = some '\n' := by
  induction rest generalizing line with
  | nil => simp
  | cons next others inductionHypothesis =>
    rw [toList_join_cons, List.getLast?_append, List.getLast?_cons, inductionHypothesis]
    rfl

/-- The lines of the human form are the lines that were written. -/
theorem OnLines.fedLines_written {report : Report} (onLines : report.OnLines) :
    fedLines (report.written .human) = report.humanLines.map String.toList := by
  have whole : ∀ line ∈ report.humanLines, line.toList.splitOn '\n' = [line.toList] :=
    fun line member => List.splitOn_eq_singleton (onLines.humanLines line member)
  rw [written_human, fedLines_join, List.flatMap_congr whole, ← List.map_eq_flatMap]

/-- A clean report has one line, and any other as many as it has remarks. -/
theorem length_humanLines (report : Report) :
    report.humanLines.length =
      max 1 (report.diagnostics.length + report.suggestions.length) := by
  rw [← length_remarks]
  cases cleanness : report.isClean with
  | true =>
    rw [remarks_eq_nil_iff.2 cleanness, humanLines, cleanness]
    rfl
  | false =>
    have told : report.remarks ≠ [] := fun nothing => by
      simp [remarks_eq_nil_iff.1 nothing] at cleanness
    have positive : 0 < report.remarks.length := List.length_pos_iff.2 told
    rw [humanLines_of_not_isClean cleanness, List.length_map]
    omega

/-- The human form ends with a line feed. -/
theorem getLast?_written_human (report : Report) :
    (report.written .human).toList.getLast? = some '\n' := by
  rw [written_human]
  cases shown : report.humanLines with
  | nil =>
    have counted := length_humanLines report
    rw [shown, List.length_nil] at counted
    omega
  | cons first rest => exact getLast?_join_cons first rest

/-- The text of a clean report is written for clean reports only, whatever the texts of
the others hold: their first line starts with a label. -/
theorem written_human_eq_success_iff (report : Report) :
    report.written .human = successLine ++ "\n" ↔ report.isClean = true := by
  cases cleanness : report.isClean with
  | true =>
    have onlyLine : report.humanLines = [successLine] := by rw [humanLines, cleanness, if_pos rfl]
    rw [written_human, onlyLine]
    exact iff_of_true rfl rfl
  | false =>
    refine iff_of_false (fun same => ?_) (by simp)
    cases told : report.remarks with
    | nil => simp [remarks_eq_nil_iff.1 told] at cleanness
    | cons first rest =>
      have start : (report.written .human).toList.head? = some 'O' := by
        rw [same]
        rfl
      rw [written_human, humanLines_of_not_isClean cleanness, told, List.map_cons,
        toList_join_cons, List.head?_append] at start
      cases leading : first.line.toList.head? with
      | none => simp [leading] at start
      | some c =>
        rw [leading, Option.some_or] at start
        exact first.head?_line (leading.trans start)

/-- What a report told people is read back from the human form. -/
theorem OnLines.readRemarks?_written {report : Report} (onLines : report.OnLines) :
    readRemarks? (report.written .human) = some report.remarks := by
  cases cleanness : report.isClean with
  | true =>
    rw [readRemarks?, if_pos ((written_human_eq_success_iff report).2 cleanness),
      remarks_eq_nil_iff.2 cleanness]
  | false =>
    have notSuccess : report.written .human ≠ successLine ++ "\n" := fun same => by
      simp [(written_human_eq_success_iff report).1 same] at cleanness
    rw [readRemarks?, if_neg notSuccess, onLines.fedLines_written,
      humanLines_of_not_isClean cleanness, List.map_map]
    exact mapM_read_map_write Remark.read?_line report.remarks

/-- Reports with the same human form tell the same, if their texts are on one line each. -/
theorem OnLines.remarks_eq {left right : Report} (leftOnLines : left.OnLines)
    (rightOnLines : right.OnLines) (same : left.written .human = right.written .human) :
    left.remarks = right.remarks := by
  have leftRead := leftOnLines.readRemarks?_written
  rw [same, rightOnLines.readRemarks?_written] at leftRead
  exact (Option.some.inj leftRead).symm

/-- The advice to split packages off is on one line if the name in it is. -/
theorem unbroken_splitSuggestion {config : Config}
    (named : '\n' ∉ config.supplementaryName.toList) :
    '\n' ∉ (Audit.splitSuggestion config).toList := by
  have inFront : '\n' ∉ "Consider splitting heavy packages into '".toList := by decide
  have behind : '\n' ∉ "' (optional extras).".toList := by decide
  unfold Audit.splitSuggestion
  simp only [String.toList_append, List.mem_append, inFront, named, behind, or_self,
    not_false_eq_true]

/-- A report of the built-in rules on a text keeps to its lines, whatever the text
holds, provided that the configured name does. -/
theorem onLines_builtinReport_parse {config : Config} (path contents : String)
    (supplementary : Manifest) (named : '\n' ∉ config.supplementaryName.toList) :
    (Audit.builtinReport config (.parse path contents) supplementary).OnLines where
  packages diagnostic found lineFeed := by
    have noBreak : Text.isBreak '\n' = false :=
      Audit.isBreak_of_mem_package found '\n' lineFeed
    exact absurd noBreak (by decide)
  suggestions text suggested := by
    rw [Audit.builtinReport, Audit.suggestions_report] at suggested
    split at suggested
    · exact absurd suggested List.not_mem_nil
    · obtain rfl := List.mem_singleton.1 suggested
      exact unbroken_splitSuggestion named

/-- The human form cannot be forged. The text of a clean report is written for clean
reports only. Where no shown text holds a line feed, the form has one line for each
diagnostic and each suggestion, or one line in all; reading its lines gives the kind
and package of each diagnostic and then the suggestions; and reports that differ in
these have different forms. And no requirements text can bring a line feed in, nor any
other break: each report on a text keeps to its lines. -/
theorem written_human_faithful :
    (∀ report : Report, report.written .human = successLine ++ "\n" ↔ report.isClean = true) ∧
    (∀ report : Report, report.OnLines →
      (fedLines (report.written .human)).length =
          max 1 (report.diagnostics.length + report.suggestions.length) ∧
        (report.written .human).toList.getLast? = some '\n' ∧
        readRemarks? (report.written .human) =
          some (report.diagnostics.map (fun diagnostic =>
              .finding diagnostic.kind diagnostic.package) ++
            report.suggestions.map .suggestion)) ∧
    (∀ left right : Report, left.OnLines → right.OnLines →
      left.written .human = right.written .human →
        left.diagnostics.map (fun diagnostic => (diagnostic.kind, diagnostic.package)) =
            right.diagnostics.map (fun diagnostic => (diagnostic.kind, diagnostic.package)) ∧
          left.suggestions = right.suggestions) ∧
    (∀ (config : Config) (path contents : String) (supplementary : Manifest),
      '\n' ∉ config.supplementaryName.toList →
        (Audit.builtinReport config (.parse path contents) supplementary).OnLines ∧
          ∀ diagnostic ∈
              (Audit.builtinReport config (.parse path contents) supplementary).diagnostics,
            ∀ c ∈ diagnostic.package.toList, Text.isBreak c = false) := by
  refine ⟨written_human_eq_success_iff, fun report onLines => ⟨?_, ?_, ?_⟩, ?_, ?_⟩
  · rw [onLines.fedLines_written, List.length_map, length_humanLines]
  · exact getLast?_written_human report
  · exact onLines.readRemarks?_written
  · intro left right leftOnLines rightOnLines same
    exact remarks_injective (leftOnLines.remarks_eq rightOnLines same)
  · intro config path contents supplementary named
    refine ⟨onLines_builtinReport_parse path contents supplementary named, ?_⟩
    intro diagnostic found
    exact Audit.isBreak_of_mem_package found

-- A separator that is no blank ends a line, so what stands behind it is another name.
example :
    (Audit.builtinReport .standard (.parse "r.txt" "torch\x1casyncio:\u2028OK:\x00\rtorch")
        (.missing "s.txt")).remarks =
      [.finding .duplicate "torch", .finding .heavyInMain "torch", .finding .heavyInMain "torch",
        .suggestion (Audit.splitSuggestion .standard)] := by
  decide

end Report

end ManifestAudit
