import ManifestAudit.Proofs.Command.Ending
import ManifestAudit.Proofs.Json.Completion
import ManifestAudit.Proofs.Report.Decoding
import Mathlib.Data.String.Basic

/-!
# Reports that were cut off

The JSON form of a report starts with an opening brace, and the closing brace of the
document is its last character but the line end. Whatever stands in between, no part of it
from the start is a document before that closing brace: a document that went on behind one
would be blank there, and a brace is not. So a reader of the report notices every cut
except the loss of the line end, and the form of one report never goes on to be the form
of another.

An output may be cut inside a character. Bytes that encode a text and start the bytes of a
report still start the text of the report (`exists_append_of_bytes`), so a cut in bytes is
one in characters or is noticed even before the document is read.
-/

namespace ManifestAudit

namespace Json

/-- What is written for a container stands between its brackets. -/
theorem exists_inside_block (opening closing : Char) (depth : Nat) (pieces : List (List Char)) :
    ∃ inside, block opening closing depth pieces = opening :: (inside ++ [closing]) := by
  cases pieces with
  | nil => exact ⟨[], rfl⟩
  | cons first rest =>
    exact ⟨newline (depth + 1) ++ first ++
      rest.flatMap (fun piece => ',' :: newline (depth + 1) ++ piece) ++ newline depth,
      by simp [block]⟩

/-- The document of an object stands between braces. -/
theorem exists_inside_document (fields : List (String × Json)) :
    ∃ inside, (object fields).document.toList = '\x7b' :: (inside ++ ['\x7d']) := by
  rw [document, String.toList_ofList, render]
  exact exists_inside_block _ _ _ _

/-- What is missing at the end of the document of an object holds its closing brace. -/
theorem closing_mem_of_cut {fields : List (String × Json)} {before after : List Char}
    (cut : (object fields).document.toList = before ++ after) (missing : after ≠ []) :
    '\x7d' ∈ after := by
  obtain ⟨inside, braced⟩ := exists_inside_document fields
  have last : (before ++ after).getLast? = some '\x7d' := by
    rw [← cut, braced, ← List.cons_append, List.getLast?_concat]
  rw [List.getLast?_append, List.getLast?_eq_some_getLast missing, Option.some_or] at last
  exact Option.some.inj last ▸ List.getLast_mem missing

/-- The document of an object with something missing at its end is no document: only blanks
may follow one, and a closing brace is missing. -/
theorem parse?_cut_document {fields : List (String × Json)} {before after : List Char}
    (cut : (object fields).document.toList = before ++ after) (missing : after ≠ []) :
    parse? before = none := by
  have whole : parse? (before ++ after) = some (.object fields) := by
    rw [← cut]
    exact parse?_of_spelling (spelling_document (.object fields)).document
  cases before with
  | nil => rfl
  | cons first rest =>
    have opened : (first :: rest).head? = some '\x7b' := by
      obtain ⟨inside, braced⟩ := exists_inside_document fields
      rw [braced] at cut
      exact congrArg some (List.cons.inj cut).1.symm
    cases complete : parse? (first :: rest) with
    | none => rfl
    | some shorter =>
      have blank : IsGap after := isGap_of_parse?_append opened complete whole
      exact absurd (blank '\x7d' (closing_mem_of_cut cut missing)) (by decide)

/-- Bytes that are a document for a value. -/
def IsEncoded (encoded : Array UInt8) (value : Json) : Prop :=
  ∃ text, Sink.bytes text = encoded ∧ Spelling text.toList (.item value)

/-- No bytes at all are no document. -/
theorem not_isEncoded_empty (value : Json) : ¬ IsEncoded #[] value := by
  rintro ⟨text, nothing, spelled⟩
  have noBytes : text.utf8ByteSize = 0 := congrArg Array.size nothing
  have unread : parse? text.toList = none := by
    rw [String.utf8ByteSize_eq_zero_iff.1 noBytes]
    rfl
  rw [parse?_of_spelling spelled] at unread
  cases unread

end Json

/-- If the bytes of a text start with those of another, so do its characters. -/
theorem Sink.exists_append_of_bytes {text whole : String} {missing : Array UInt8}
    (starts : bytes text ++ missing = bytes whole) :
    ∃ after, whole.toList = text.toList ++ after := by
  have encoded : text.toList.utf8Encode ++ ⟨missing⟩ = whole.toList.utf8Encode := by
    rw [String.utf8Encode_toList, String.utf8Encode_toList]
    apply ByteArray.ext
    rw [ByteArray.data_append]
    exact starts
  obtain ⟨after, same⟩ := List.isPrefix_of_utf8Encode_append_eq_utf8Encode ⟨missing⟩ encoded
  exact ⟨after, same.symm⟩

namespace Report

open Json

/-- The JSON form in characters: the document and the line end. -/
theorem toList_written_json (report : Report) :
    (report.written .json).toList = report.value.document.toList ++ ['\n'] := by
  rw [written_json, String.toList_append]
  rfl

/-- The document of a report stands between braces. -/
theorem exists_inside_value (report : Report) :
    ∃ inside, report.value.document.toList = '\x7b' :: (inside ++ ['\x7d']) :=
  exists_inside_document _

/-- Where the JSON form can be cut: behind the line end, in front of it, or in front of
the closing brace. -/
theorem cut_written_json {report : Report} {before after : List Char}
    (cut : (report.written .json).toList = before ++ after) :
    (after = [] ∧ (report.written .json).toList = before) ∨
    (after = ['\n'] ∧ report.value.document.toList = before) ∨
    ∃ rest, rest ≠ [] ∧ report.value.document.toList = before ++ rest ∧
      after = rest ++ ['\n'] := by
  rcases List.eq_nil_or_concat after with rfl | ⟨rest, last, rfl⟩
  · rw [List.append_nil] at cut
    exact .inl ⟨rfl, cut⟩
  · rw [List.concat_eq_append] at cut ⊢
    rw [toList_written_json, ← List.append_assoc] at cut
    obtain ⟨document, lineEnd⟩ := List.append_inj' cut rfl
    rw [← lineEnd]
    by_cases complete : rest = []
    · rw [complete, List.append_nil] at document
      rw [complete]
      exact .inr (.inl ⟨rfl, document⟩)
    · exact .inr (.inr ⟨rest, complete, document, rfl⟩)

/-- What starts the JSON form of a report is a document exactly if nothing is missing but
the line end. -/
theorem spelling_before_iff {report : Report} {before after : List Char}
    (cut : (report.written .json).toList = before ++ after) :
    (∃ value, Spelling before (.item value)) ↔ after = [] ∨ after = ['\n'] := by
  rcases cut_written_json cut with ⟨rfl, whole⟩ | ⟨rfl, document⟩ | ⟨rest, missing, document, rfl⟩
  · exact iff_of_true ⟨report.value, whole ▸ spelling_written_json report⟩ (.inl rfl)
  · exact iff_of_true ⟨report.value, document ▸ (spelling_document report.value).document⟩
      (.inr rfl)
  · constructor
    · rintro ⟨value, spelled⟩
      have unread : parse? before = none := parse?_cut_document document missing
      rw [parse?_of_spelling spelled] at unread
      cases unread
    · intro few
      simp [missing] at few

/-- What starts the JSON form of a report is not read exactly if a closing brace is
missing. -/
theorem parse?_before_eq_none_iff {report : Report} {before after : List Char}
    (cut : (report.written .json).toList = before ++ after) :
    parse? before = none ↔ '\x7d' ∈ after := by
  have isRead (few : after = [] ∨ after = ['\n']) : parse? before ≠ none := by
    obtain ⟨value, spelled⟩ := (spelling_before_iff cut).2 few
    rw [parse?_of_spelling spelled]
    exact nofun
  rcases cut_written_json cut with ⟨rfl, whole⟩ | ⟨rfl, document⟩ | ⟨rest, missing, document, rfl⟩
  · exact iff_of_false (isRead (.inl rfl)) List.not_mem_nil
  · exact iff_of_false (isRead (.inr rfl)) (by decide)
  · have closing : '\x7d' ∈ rest := closing_mem_of_cut document missing
    exact iff_of_true (parse?_cut_document document missing) (List.mem_append_left _ closing)

/-- No form of a report goes on to be the form of another one. -/
theorem eq_of_written_append {report other : Report} {after : List Char}
    (goesOn : (other.written .json).toList = (report.written .json).toList ++ after) :
    report = other := by
  rcases (spelling_before_iff goesOn).1 ⟨report.value, spelling_written_json report⟩ with
    nothing | lineEnd
  · rw [nothing, List.append_nil, String.toList_inj] at goesOn
    exact (written_json_injective goesOn).symm
  · -- A document would end in the line end of the shorter form, and not in a brace.
    have longer : other.value.document.toList = report.value.document.toList ++ ['\n'] := by
      rw [lineEnd, toList_written_json, toList_written_json] at goesOn
      exact List.append_cancel_right goesOn
    obtain ⟨inside, braced⟩ := exists_inside_value other
    have lastOfDocument : other.value.document.toList.getLast? = some '\x7d' := by
      rw [braced, ← List.cons_append, List.getLast?_concat]
    rw [longer, List.getLast?_concat] at lastOfDocument
    exact absurd lastOfDocument (by decide)

/-- Bytes that start the bytes of the JSON form are a document only for the report itself,
and only if nothing is missing but the line end. -/
theorem encoded_of_isEncoded {report : Report} {left missing : Array UInt8} {value : Json}
    (starts : left ++ missing = report.encoded .json) (document : IsEncoded left value) :
    value = report.value ∧
      (left = report.encoded .json ∨ left = Sink.bytes report.value.document) := by
  obtain ⟨text, rfl, spelled⟩ := document
  obtain ⟨after, cut⟩ := Sink.exists_append_of_bytes starts
  rcases (spelling_before_iff cut).1 ⟨value, spelled⟩ with nothing | lineEnd
  · have whole : report.written .json = text := by
      rw [nothing, List.append_nil, String.toList_inj] at cut
      exact cut
    refine ⟨(spelling_written_json_iff report value).1 ?_, .inl ?_⟩
    · rw [whole]
      exact spelled
    · rw [encoded, whole]
  · have document : report.value.document = text := by
      rw [lineEnd, toList_written_json] at cut
      exact String.toList_inj.1 (List.append_cancel_right cut)
    have read : parse? text.toList = some report.value := by
      rw [← document]
      exact parse?_of_spelling (spelling_document report.value).document
    rw [parse?_of_spelling spelled] at read
    exact ⟨Option.some.inj read, .inr (congrArg Sink.bytes document.symm)⟩

end Report

namespace Command

open Json

/-- If a failed run in JSON form leaves a document on its output, the document is that of
the report, and either the line end is missing or only flushing was left to do. -/
theorem left_of_failed {read : Reader} {sink : Sink} {command : Command} {failure : Failure}
    {left : Array UInt8} {value : Json} (inJson : command.form = .json)
    (failed : (command.execute read sink).result.2 = .error failure)
    (leaves : (command.execute read sink).result.1.accepted = sink.accepted ++ left)
    (document : IsEncoded left value) :
    ∃ report, (command.audit read).result = .ok report ∧ value = report.value ∧
      (left = Sink.bytes report.value.document ∨
        left = report.encoded .json ∧ sink.Fits left.size) := by
  have ending := ending_observed read sink command
  simp only [observed, failed, leaves] at ending
  generalize same : sink.accepted ++ left = accepted at ending
  cases ending with
  | primaryUnreadable _ | supplementaryUnreadable _ _ =>
    obtain rfl : left = #[] := by simpa using same
    exact absurd document (not_isEncoded_empty value)
  | @cut report room audited limited short =>
    rw [inJson] at same short
    obtain rfl : left = (report.encoded .json).take room := (Array.append_right_inj _).1 same
    have starts : (report.encoded .json).take room ++ (report.encoded .json).extract room =
        report.encoded .json := by
      rw [Array.take_eq_extract, Array.extract_append_extract, Nat.zero_min]
      apply Array.extract_eq_self_of_le
      exact Nat.le_max_right room (report.encoded .json).size
    obtain ⟨sameValue, whole | withoutLineEnd⟩ := Report.encoded_of_isEncoded starts document
    · have size := congrArg Array.size whole
      simp at size
      omega
    · exact ⟨report, audited, sameValue, .inl withoutLineEnd⟩
  | @unflushed report cause audited fits flushing =>
    rw [inJson] at same fits
    obtain rfl : left = report.encoded .json := (Array.append_right_inj _).1 same
    obtain ⟨sameValue, _⟩ := Report.encoded_of_isEncoded (Array.append_empty) document
    exact ⟨report, audited, sameValue, .inr ⟨rfl, fits⟩⟩

end Command

open Json in
/-- A JSON form that was cut off is noticed. What starts it is no document as long as a
closing brace is missing, and is the document of the report otherwise. A run that fails
while it writes the form leaves a document on its output only if the line end alone is
missing, or if all was written and only flushing failed. No form of a report is the start
of the form of another one. -/
theorem Report.truncation_detectable (report : Report) :
    (∀ before after, (report.written .json).toList = before ++ after →
      (parse? before = none ↔ '\x7d' ∈ after) ∧
      ((∃ value, Spelling before (.item value)) ↔ after = [] ∨ after = ['\n'])) ∧
    (∀ read sink command failure left value, command.form = .json →
      (Command.audit read command).result = .ok report →
      (command.execute read sink).result.2 = .error failure →
      (command.execute read sink).result.1.accepted = sink.accepted ++ left →
      IsEncoded left value →
        value = report.value ∧
          (left = Sink.bytes report.value.document ∨
            left = report.encoded .json ∧ sink.Fits left.size)) ∧
    ∀ other : Report, (report.written .json).toList <+: (other.written .json).toList →
      report = other := by
  refine ⟨?_, ?_, ?_⟩
  · intro before after cut
    exact ⟨parse?_before_eq_none_iff cut, spelling_before_iff cut⟩
  · intro read sink command failure left value inJson audited failed leaves document
    obtain ⟨written, same, sameValue, complete⟩ :=
      Command.left_of_failed inJson failed leaves document
    obtain rfl : report = written := Except.ok.inj (audited.symm.trans same)
    exact ⟨sameValue, complete⟩
  · rintro other ⟨after, goesOn⟩
    exact eq_of_written_append goesOn.symm

/-- A project that lists a name twice which looks like the end of a document. -/
def Reader.braced : Reader := ofList
  [("p/python-requirements.txt", .ok "\"\x7d]\\\n\"\x7d]\\".toUTF8),
   ("p/scripts/python-requirements-ml.txt", .ok "".toUTF8)]

/-- The report on this project. -/
def Report.braced : Report :=
  ⟨[⟨.duplicate, "\"\x7d]\\", "Package '\"\x7d]\\' is listed more than once",
    some ⟨"p/python-requirements.txt", 2⟩⟩], []⟩

/-- The characters of a document are counted in bytes one after another. -/
theorem Report.size_document (report : Report) :
    (Sink.bytes report.value.document).size = String.utf8Len (Json.render 0 report.value) :=
  String.utf8ByteSize_ofList _

/-- The JSON form is one byte longer than its document. -/
theorem Report.size_encoded_json (report : Report) :
    (report.encoded .json).size = (Sink.bytes report.value.document).size + 1 := by
  rw [encoded, written_json, Sink.bytes_append, Array.size_append]
  rfl

/-- Neither behind the brace in such a name nor behind the one that closes the counts is there a
document, though both are braces. A run whose output ends inside of the name leaves none. -/
theorem Report.truncation_detectable_counts :
    (Command.audit .braced (.standard "p" .json)).result = .ok braced ∧
      Command.observed (Command.execute .braced
          ⟨some 75, .system SystemError.noSpace, none, #[], rfl⟩ (.standard "p" .json)).result =
        ((braced.encoded .json).take 75, .error (.io (.system SystemError.noSpace))) ∧
      (∀ length ∈ [75, 358],
        ((braced.written .json).toList.take length).getLast? = some '\x7d' ∧
          Json.parse? ((braced.written .json).toList.take length) = none) ∧
      ∀ value, ¬ Json.IsEncoded ((braced.encoded .json).take 75) value := by
  have audited : (Command.audit .braced (.standard "p" .json)).result = .ok braced := by
    decide +kernel
  have documentSize : 75 < (Sink.bytes braced.value.document).size := by
    rw [size_document]
    decide +kernel
  have braces : ∀ length ∈ [75, 358],
      ((braced.written .json).toList.take length).getLast? = some '\x7d' ∧
        '\x7d' ∈ (braced.written .json).toList.drop length := by
    rw [toList_written_json, Json.document, String.toList_ofList]
    decide +kernel
  -- Nothing else about the report is computed.
  generalize braced = report at *
  have encodedSize : 75 < (report.encoded .json).size := by
    rw [size_encoded_json]
    omega
  have cutShort (sink : Sink) (limited : sink.room = some 75) (fresh : sink.accepted = #[]) :
      Command.observed (Command.execute .braced sink (.standard "p" .json)).result =
          ((report.encoded .json).take 75, .error (.io sink.fullError)) ∧
        ∀ value, ¬ Json.IsEncoded ((report.encoded .json).take 75) value := by
    have observed := Command.observed_of_ending (.cut audited limited encodedSize)
    rw [fresh, Array.empty_append] at observed
    refine ⟨observed, fun value document => ?_⟩
    rw [Command.observed, Prod.mk.injEq] at observed
    obtain ⟨leaves, failed⟩ := observed
    have accepted : (Command.execute .braced sink (.standard "p" .json)).result.1.accepted =
        sink.accepted ++ (report.encoded .json).take 75 := by
      rw [fresh, Array.empty_append]
      exact leaves
    have few : ((report.encoded .json).take 75).size ≤ 75 := by
      rw [Array.take_eq_extract, Array.size_extract]
      omega
    -- A document that a failed run leaves has at most its line end missing.
    obtain ⟨-, whole | ⟨whole, -⟩⟩ := (truncation_detectable report).2.1 _ sink _ _
      ((report.encoded .json).take 75) value rfl audited failed accepted document
    · have same := congrArg Array.size whole
      omega
    · have same := congrArg Array.size whole
      omega
  obtain ⟨observed, undocumented⟩ :=
    cutShort ⟨some 75, .system SystemError.noSpace, none, #[], rfl⟩ rfl rfl
  refine ⟨audited, observed, fun length listed => ?_, undocumented⟩
  obtain ⟨braceLast, missing⟩ := braces length listed
  have cut : (report.written .json).toList = (report.written .json).toList.take length ++
      (report.written .json).toList.drop length := (List.take_append_drop length _).symm
  exact ⟨braceLast, ((truncation_detectable report).1 _ _ cut).1.2 missing⟩

end ManifestAudit
