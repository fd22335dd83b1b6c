import ManifestAudit.Proofs.Command.Loading
import ManifestAudit.Proofs.Files.Delivery

/-!
# How a run ends

What can be seen of a run is the bytes that its output has accepted and the answer
that it gives. A run has five endings: one of the two manifests cannot be loaded and
nothing is written; the output takes only a first part of the report; it takes all
of it and flushing fails; or all went through, and only then is there a verdict.
`Ending` lists them with their conditions, and every run has exactly one of them.
-/

namespace ManifestAudit

/-- The bytes of a report in a form. -/
def Report.encoded (report : Report) (form : ReportForm) : Array UInt8 :=
  Sink.bytes (report.written form)

namespace Command

/-- The endings of a run: the bytes that the output has accepted, and the answer. -/
inductive Ending (read : Reader) (sink : Sink) (command : Command) :
    Array UInt8 → Except Failure Verdict → Prop
  /-- The primary manifest cannot be loaded. -/
  | primaryUnreadable {cause : IoError}
      (primary : read.obstacle? (Layout.discover command.root).primary = some cause) :
      Ending read sink command sink.accepted
        (.error (.manifestRead (Layout.discover command.root).primary cause))
  /-- The primary manifest is loaded and the supplementary one cannot be. -/
  | supplementaryUnreadable {cause : IoError}
      (primary : read.obstacle? (Layout.discover command.root).primary = none)
      (supplementary : read.obstacle? (Layout.discover command.root).supplementary = some cause) :
      Ending read sink command sink.accepted
        (.error (.manifestRead (Layout.discover command.root).supplementary cause))
  /-- The output has less room than the report needs. -/
  | cut {report : Report} {room : Nat}
      (audited : (command.audit read).result = .ok report)
      (limited : sink.room = some room)
      (short : room < (report.encoded command.form).size) :
      Ending read sink command (sink.accepted ++ (report.encoded command.form).take room)
        (.error (.io sink.fullError))
  /-- The output takes the whole report and cannot be flushed. -/
  | unflushed {report : Report} {cause : IoError}
      (audited : (command.audit read).result = .ok report)
      (fits : sink.Fits (report.encoded command.form).size)
      (flushing : sink.flushError = some cause) :
      Ending read sink command (sink.accepted ++ report.encoded command.form)
        (.error (.io cause))
  /-- The output takes the whole report and is flushed. -/
  | delivered {report : Report}
      (audited : (command.audit read).result = .ok report)
      (fits : sink.Fits (report.encoded command.form).size)
      (flushing : sink.flushError = none) :
      Ending read sink command (sink.accepted ++ report.encoded command.form)
        (.ok report.verdict)

/-- What can be seen of a run. -/
def observed (outcome : Sink × Except Failure Verdict) : Array UInt8 × Except Failure Verdict :=
  (outcome.1.accepted, outcome.2)

/-- A run delivers what the audit gives. -/
theorem result_execute (read : Reader) (sink : Sink) (command : Command) :
    (command.execute read sink).result =
      conclude sink command.form (command.audit read).result := rfl

/-- A report that does not fit is cut at the room of the output. -/
theorem observed_conclude_of_short {sink : Sink} {form : ReportForm} {report : Report}
    {room : Nat} (limited : sink.room = some room) (short : room < (report.encoded form).size) :
    observed (conclude sink form (.ok report)) =
      (sink.accepted ++ (report.encoded form).take room, .error (.io sink.fullError)) := by
  have delivered : sink.deliver (report.pieces form) = _ := Sink.deliver_of_short limited short
  simp only [conclude, deliver, delivered, observed]
  rfl

/-- A report that fits is accepted as a whole, and flushing decides on the answer. -/
theorem observed_conclude_of_fits {sink : Sink} {form : ReportForm} {report : Report}
    (fits : sink.Fits (report.encoded form).size) :
    observed (conclude sink form (.ok report)) =
      (sink.accepted ++ report.encoded form,
        match sink.flushError with
        | none => .ok report.verdict
        | some cause => .error (.io cause)) := by
  have delivered : sink.deliver (report.pieces form) = _ := Sink.deliver_of_fits fits
  simp only [conclude, deliver, delivered, observed, Sink.flush]
  cases sink.flushError <;> rfl

/-- The ending of a run is what can be seen of it. The obstacles of the two paths
decide on the failures of loading; without obstacles the room and the flush of the
output decide. -/
theorem ending_observed (read : Reader) (sink : Sink) (command : Command) :
    Ending read sink command (observed (command.execute read sink).result).1
      (observed (command.execute read sink).result).2 := by
  rw [result_execute]
  have outcome := result_audit read command
  unfold auditOutcome at outcome
  cases primary : read.obstacle? (Layout.discover command.root).primary with
  | some cause =>
    simp only [primary] at outcome
    rw [outcome]
    exact .primaryUnreadable primary
  | none =>
    cases supplementary : read.obstacle? (Layout.discover command.root).supplementary with
    | some cause =>
      simp only [primary, supplementary] at outcome
      rw [outcome]
      exact .supplementaryUnreadable primary supplementary
    | none =>
      simp only [primary, supplementary] at outcome
      rw [outcome]
      rcases sink.fits_or_short _ with fits | ⟨room, limited, short⟩
      · rw [observed_conclude_of_fits fits]
        cases flushing : sink.flushError with
        | none => exact .delivered outcome fits flushing
        | some cause => exact .unflushed outcome fits flushing
      · rw [observed_conclude_of_short limited short]
        exact .cut outcome limited short

/-- A run has no ending but the one that can be seen of it. -/
theorem observed_of_ending {read : Reader} {sink : Sink} {command : Command}
    {bytes : Array UInt8} {answer : Except Failure Verdict}
    (ending : Ending read sink command bytes answer) :
    observed (command.execute read sink).result = (bytes, answer) := by
  rw [result_execute]
  cases ending with
  | primaryUnreadable primary =>
    rw [result_audit, auditOutcome]
    simp only [primary]
    rfl
  | supplementaryUnreadable primary supplementary =>
    rw [result_audit, auditOutcome]
    simp only [primary, supplementary]
    rfl
  | cut audited limited short => rw [audited, observed_conclude_of_short limited short]
  | unflushed audited fits flushing => rw [audited, observed_conclude_of_fits fits, flushing]
  | delivered audited fits flushing => rw [audited, observed_conclude_of_fits fits, flushing]

/-- The pieces in which a report is handed to the output do not matter, only the
text that they make. -/
theorem deliver_of_join_eq {sink : Sink} {form : ReportForm} {report : Report}
    {texts : List String} (whole : String.join texts = report.written form) :
    deliver sink texts report.verdict = conclude sink form (.ok report) := by
  have same : sink.deliver texts = sink.deliver (report.pieces form) := by
    rw [Sink.deliver, Sink.deliver, Sink.writeAll_eq_write_join, Sink.writeAll_eq_write_join,
      whole, Report.written]
  simp only [conclude, deliver, same]

/-- Every run ends in exactly one way: what can be seen of it is one of the listed
endings, and there is no other. A verdict is given only when the whole report was
accepted, and it is the verdict of that report. None of this depends on the pieces
in which the report was handed to the output. -/
theorem ending_iff_observed (read : Reader) (sink : Sink) (command : Command) :
    (∀ bytes answer, Ending read sink command bytes answer ↔
      observed (command.execute read sink).result = (bytes, answer)) ∧
    (∀ verdict, (command.execute read sink).result.2 = .ok verdict →
      ∃ report, (command.audit read).result = .ok report ∧ verdict = report.verdict ∧
        (command.execute read sink).result.1.accepted =
          sink.accepted ++ report.encoded command.form) ∧
    (∀ report texts, (command.audit read).result = .ok report →
      String.join texts = report.written command.form →
        (command.execute read sink).result = deliver sink texts report.verdict) := by
  refine ⟨fun bytes answer => ⟨observed_of_ending, fun seen => ?_⟩,
    fun verdict answered => ?_, fun report texts audited whole => ?_⟩
  · have ending := ending_observed read sink command
    rwa [seen] at ending
  · have ending := ending_observed read sink command
    simp only [observed, answered] at ending
    generalize (command.execute read sink).result.1.accepted = bytes at ending ⊢
    cases ending with
    | delivered audited fits flushing => exact ⟨_, audited, rfl, rfl⟩
  · rw [result_execute, audited, deliver_of_join_eq whole]

end Command

end ManifestAudit
