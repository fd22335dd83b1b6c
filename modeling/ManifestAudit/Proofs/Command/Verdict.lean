import ManifestAudit.Proofs.Audit.Clean
import ManifestAudit.Proofs.Command.Ending
import ManifestAudit.Proofs.Manifest.Numbering

/-!
# The verdict of a run

For a project whose manifests are absent or text, the verdict of a run is decided by
the names on the lines of the primary text and by whether there is a supplementary
one. `Passes` is that decision in the terms of the two texts alone; reading, loading,
rules, report and output do not appear in it.
-/

namespace ManifestAudit

/-- What a path holds for a reader: nothing, or a file with a text. -/
def Reader.Holds (read : Reader) (path : String) : Option String → Prop
  | none => read path = .error .noSuchFile
  | some contents => read path = .ok contents.toUTF8

/-- The names on the lines of a text, in order; without a text there are none. -/
def Manifest.listedNames : Option String → List String
  | none => []
  | some contents => (Text.lines contents.toList).filterMap fun line =>
    Requirement.packageName? (String.ofList line)

/-- An output that takes all bytes and can be flushed. -/
structure Sink.Unfailing (sink : Sink) : Prop where
  unlimited : sink.room = none
  flushes : sink.flushError = none

/-- Any number of bytes fits into an output that takes all. -/
theorem Sink.Unfailing.fits {sink : Sink} (unfailing : sink.Unfailing) (size : Nat) :
    sink.Fits size := by
  intro room limited
  exact absurd (unfailing.unlimited.symm.trans limited) (by simp)

/-- What two manifests, each of them a text or absent, must meet for a clean report. -/
structure Config.Passes (config : Config) (primary supplementary : Option String) : Prop where
  supplementaryPresent : supplementary.isSome = true
  distinct : (Manifest.listedNames primary).Nodup
  noStdlib : ∀ name ∈ Manifest.listedNames primary, name ∉ config.stdlib
  noHeavy : ∀ name ∈ Manifest.listedNames primary, name ∉ config.heavy

/-- The decision in the four parts of its definition. -/
theorem Config.passes_iff {config : Config} {primary supplementary : Option String} :
    config.Passes primary supplementary ↔
      supplementary.isSome = true ∧ (Manifest.listedNames primary).Nodup ∧
        (∀ name ∈ Manifest.listedNames primary, name ∉ config.stdlib) ∧
        (∀ name ∈ Manifest.listedNames primary, name ∉ config.heavy) := by
  constructor
  · rintro ⟨present, distinct, noStdlib, noHeavy⟩
    exact ⟨present, distinct, noStdlib, noHeavy⟩
  · rintro ⟨present, distinct, noStdlib, noHeavy⟩
    exact ⟨present, distinct, noStdlib, noHeavy⟩

instance (config : Config) (primary supplementary : Option String) :
    Decidable (config.Passes primary supplementary) :=
  decidable_of_iff' _ Config.passes_iff

namespace Reader

variable {read : Reader} {path : String}

/-- The bytes of a text are read back as the text. -/
theorem decode_toUTF8 (contents : String) : decode contents.toUTF8 = .ok contents := by
  have valid : contents.toUTF8.IsValidUTF8 := contents.isValidUTF8
  have same : String.fromUTF8? contents.toUTF8 = some contents := by
    rw [String.fromUTF8?, dif_pos valid]
    rfl
  rw [decode, same]

/-- What a path holds is what reading its text gives. -/
theorem text_of_holds {held : Option String} (holds : read.Holds path held) :
    read.text path =
      match held with
      | none => .error .noSuchFile
      | some contents => .ok contents := by
  cases held with
  | none =>
    have absent : read path = .error .noSuchFile := holds
    rw [text, absent]
  | some contents =>
    have readable : read path = .ok contents.toUTF8 := holds
    rw [text, readable]
    exact decode_toUTF8 contents

/-- A path that holds nothing or a text is no obstacle. -/
theorem obstacle?_of_holds {held : Option String} (holds : read.Holds path held) :
    read.obstacle? path = none := by
  rw [obstacle?, text_of_holds holds]
  cases held with
  | none => exact if_pos (by decide)
  | some contents => rfl

/-- The manifest of a path that holds nothing or a text. -/
theorem manifest_of_holds {held : Option String} (holds : read.Holds path held) :
    read.manifest path =
      match held with
      | none => .missing path
      | some contents => .parse path contents := by
  rw [manifest, text_of_holds holds]
  cases held <;> rfl

/-- The manifest of a path is there exactly if the path holds a text. -/
theorem isPresent_of_holds {held : Option String} (holds : read.Holds path held) :
    (read.manifest path).isPresent = held.isSome := by
  rw [manifest_of_holds holds]
  cases held <;> rfl

/-- The manifest of a path lists the names on the lines that the path holds. -/
theorem names_of_holds {held : Option String} (holds : read.Holds path held) :
    (read.manifest path).names = Manifest.listedNames held := by
  rw [manifest_of_holds holds]
  cases held with
  | none => rfl
  | some contents => exact Manifest.names_parse path contents

end Reader

/-- The verdict of a report is success with the clean code, or failure with the code
for issues. -/
theorem Report.verdict_eq (report : Report) :
    report.verdict = if report.isClean then ⟨true, 0⟩ else ⟨false, 2⟩ := by
  unfold verdict exitCode
  cases report.isClean <;> rfl

namespace Command

/-- On an output that does not fail, a run without obstacles gives the verdict of its
report, in either form. -/
theorem answer_of_clear {read : Reader} {sink : Sink} (unfailing : sink.Unfailing)
    {root : String} (primary : read.obstacle? (Layout.discover root).primary = none)
    (supplementary : read.obstacle? (Layout.discover root).supplementary = none)
    (form : ReportForm) (config : Config) :
    (execute read sink ⟨root, form, config⟩).result.2 =
      .ok (projectReport read root config).verdict := by
  have audited := result_audit read ⟨root, form, config⟩
  simp only [auditOutcome, primary, supplementary] at audited
  have ending := observed_of_ending (.delivered audited (unfailing.fits _) unfailing.flushes)
  exact congrArg Prod.snd ending

/-- The report on a project is clean exactly if its manifests pass. -/
theorem isClean_projectReport_iff {read : Reader} {root : String} (config : Config)
    {primary supplementary : Option String}
    (primaryHeld : read.Holds (Layout.discover root).primary primary)
    (supplementaryHeld : read.Holds (Layout.discover root).supplementary supplementary) :
    (projectReport read root config).isClean = true ↔ config.Passes primary supplementary := by
  rw [projectReport, Audit.isClean_builtinReport_iff, Reader.isPresent_of_holds supplementaryHeld,
    Reader.names_of_holds primaryHeld, Config.passes_iff]

/-- Where each manifest is absent or a text, every form of the report gives the same
verdict: success with exit code zero if the manifests pass, and failure with exit code
two if they do not. -/
theorem execute_verdict {read : Reader} {sink : Sink} (unfailing : sink.Unfailing)
    (root : String) (config : Config) {primary supplementary : Option String}
    (primaryHeld : read.Holds (Layout.discover root).primary primary)
    (supplementaryHeld : read.Holds (Layout.discover root).supplementary supplementary) :
    ∃ verdict : Verdict,
      (∀ form, (execute read sink ⟨root, form, config⟩).result.2 = .ok verdict) ∧
      (verdict = ⟨true, 0⟩ ↔ config.Passes primary supplementary) ∧
      (verdict = ⟨false, 2⟩ ↔ ¬ config.Passes primary supplementary) := by
  have clean := isClean_projectReport_iff config primaryHeld supplementaryHeld
  refine ⟨(projectReport read root config).verdict, fun form => ?_, ?_⟩
  · exact answer_of_clear unfailing (Reader.obstacle?_of_holds primaryHeld)
      (Reader.obstacle?_of_holds supplementaryHeld) form config
  · rw [Report.verdict_eq, ← clean]
    cases (projectReport read root config).isClean <;> simp

/-- Two distinct names beside a supplementary text pass in every form of the report. The same
names with one of them listed once more fail in every form. -/
theorem execute_verdict_two_names :
    let read (primary : String) := Reader.ofList
      [("p/python-requirements.txt", .ok primary.toUTF8),
       ("p/scripts/python-requirements-ml.txt", .ok "torch\ntorch\n".toUTF8)]
    (∀ form, (execute (read "flask\r\n\nnumpy>=1") .unbounded ⟨"p", form, .standard⟩).result.2 =
        .ok ⟨true, 0⟩) ∧
      (∀ form, (execute (read "flask\r\n\nnumpy>=1\rflask # again") .unbounded
        ⟨"p", form, .standard⟩).result.2 = .ok ⟨false, 2⟩) := by
  intro read
  have unfailing : Sink.unbounded.Unfailing := ⟨rfl, rfl⟩
  have primary (text : String) :
      (read text).Holds (Layout.discover "p").primary (some text) := rfl
  have supplementary (text : String) :
      (read text).Holds (Layout.discover "p").supplementary (some "torch\ntorch\n") := rfl
  constructor
  · obtain ⟨verdict, answered, passes, -⟩ := execute_verdict unfailing "p" .standard
      (primary "flask\r\n\nnumpy>=1") (supplementary _)
    obtain rfl := passes.2 (by decide +kernel)
    exact answered
  · obtain ⟨verdict, answered, -, fails⟩ := execute_verdict unfailing "p" .standard
      (primary "flask\r\n\nnumpy>=1\rflask # again") (supplementary _)
    obtain rfl := fails.2 (by decide +kernel)
    exact answered

end Command

end ManifestAudit
