import ManifestAudit.Invocation
import ManifestAudit.Proofs.Command.Verdict
import ManifestAudit.Proofs.Report.Decoding
import ManifestAudit.Proofs.Report.HumanReading

/-!
# The courses of a run

A run of the program is known from outside by its exit code, by the bytes on its output
stream and by what it says on the error stream besides what was logged. There are six courses
that it can take, and each of them fixes all three: the arguments are wrong; help or the
version is asked for; there is no project root; the rules are listed; a manifest cannot
be loaded; the project is audited. Which course a run takes depends on the arguments,
the current directory and the obstacles on the paths of the two manifests, and the
conditions of the six exclude each other.

Two exit codes are shared. Code 1 stands for a missing root and for an obstacle, and
code 2 for wrong arguments and for findings; whether anything was written tells the
latter two apart, since no report is empty.
-/

namespace ManifestAudit

/-- The bytes of a report are never none. -/
theorem Report.encoded_ne_empty (report : Report) (form : ReportForm) :
    report.encoded form ≠ #[] := by
  have ends : (report.written form).toList.getLast? = some '\n' := by
    cases form with
    | human => exact getLast?_written_human report
    | json =>
      rw [Report.written_json, String.toList_append]
      exact List.getLast?_concat
  intro nothing
  have noBytes : (report.written form).utf8ByteSize = 0 := congrArg Array.size nothing
  rw [String.utf8ByteSize_eq_zero_iff.1 noBytes] at ends
  exact absurd ends (by decide)

/-- The exit code of a verdict says whether the report is clean. -/
theorem Report.exitCode_verdict (report : Report) :
    report.verdict.exitCode = if report.isClean then 0 else 2 := by
  rw [verdict_eq]
  split <;> rfl

namespace Invocation

/-- What can be seen of a run: its exit code, the bytes that the output stream has
accepted, and what is said on the error stream besides what was logged. -/
structure Seen where
  exitCode : Nat
  output : Array UInt8
  errors : List String
deriving DecidableEq, Repr

/-- What a notice says, unless it is a log line. -/
def errorLine? : Notice → Option String
  | .logged _ => none
  | notice => some notice.text

/-- What can be seen of an outcome. -/
def seen (outcome : Outcome) : Seen :=
  ⟨outcome.exitCode, outcome.output.accepted, outcome.notices.filterMap errorLine?⟩

/-- What the rules are listed as. -/
def ruleListing : String := String.join (Registry.builtin.rules.map Command.ruleLine)

/-- A project has this root: it was asked for, or nothing was and it is the current
directory. -/
def Roots (surroundings : Surroundings) (options : Options) (root : String) : Prop :=
  options.project = some root ∨
    options.project = none ∧ surroundings.currentDirectory = .ok root

/-- The first manifest of a project that cannot be loaded, and its obstacle. -/
inductive FirstUnreadable (read : Reader) (root : String) : String → IoError → Prop
  /-- The primary one. -/
  | primary {cause : IoError}
      (obstacle : read.obstacle? (Layout.discover root).primary = some cause) :
      FirstUnreadable read root (Layout.discover root).primary cause
  /-- The supplementary one, where the primary one can be. -/
  | supplementary {cause : IoError}
      (loaded : read.obstacle? (Layout.discover root).primary = none)
      (obstacle : read.obstacle? (Layout.discover root).supplementary = some cause) :
      FirstUnreadable read root (Layout.discover root).supplementary cause

/-- The report of a run on the project at a root. -/
def reportAt (surroundings : Surroundings) (root : String) : Report :=
  Command.projectReport surroundings.read root .standard

/-- The courses of a run. -/
inductive Course
  | misused
  | informed
  | rootless
  | listed
  | unreadable
  | audited
deriving DecidableEq, Repr

/-- The conditions of each course, and what can be seen of a run that takes it. -/
inductive Takes (surroundings : Surroundings) (arguments : List String) : Course → Seen → Prop
  /-- The arguments are wrong. -/
  | misused {error : UsageError}
      (parsed : Options.parse arguments = .error (.usage error)) :
      Takes surroundings arguments .misused ⟨2, #[], [error.printedMessage]⟩
  /-- Help is asked for. -/
  | helped {length : HelpLength}
      (parsed : Options.parse arguments = .error (.help length)) :
      Takes surroundings arguments .informed ⟨0, Sink.bytes length.text, []⟩
  /-- The version is asked for. -/
  | versioned (parsed : Options.parse arguments = .error .version) :
      Takes surroundings arguments .informed ⟨0, Sink.bytes versionText, []⟩
  /-- No root is asked for, and the current directory cannot be told. -/
  | rootless {options : Options} {cause : IoError}
      (parsed : Options.parse arguments = .ok options) (unasked : options.project = none)
      (unknown : surroundings.currentDirectory = .error cause) :
      Takes surroundings arguments .rootless
        ⟨1, #[],
          ["Error: " ++ ("Cannot determine current directory" ++ ": " ++ cause.asCause.spelledOut)]⟩
  /-- There is a root, and the rules are to be listed. -/
  | listed {options : Options} {root : String}
      (parsed : Options.parse arguments = .ok options) (rooted : Roots surroundings options root)
      (lists : options.listRules = true) :
      Takes surroundings arguments .listed ⟨0, Sink.bytes ruleListing, []⟩
  /-- The project at the root is to be audited, and a manifest cannot be loaded. -/
  | unreadable {options : Options} {root path : String} {cause : IoError}
      (parsed : Options.parse arguments = .ok options) (rooted : Roots surroundings options root)
      (audits : options.listRules = false)
      (first : FirstUnreadable surroundings.read root path cause) :
      Takes surroundings arguments .unreadable
        ⟨1, #[], ["Error: " ++ ("Failed to read manifest at " ++ path ++ ": " ++ cause.message)]⟩
  /-- The project at the root is to be audited, and both manifests can be loaded. -/
  | audited {options : Options} {root : String}
      (parsed : Options.parse arguments = .ok options) (rooted : Roots surroundings options root)
      (audits : options.listRules = false)
      (primary : surroundings.read.obstacle? (Layout.discover root).primary = none)
      (supplementary : surroundings.read.obstacle? (Layout.discover root).supplementary = none) :
      Takes surroundings arguments .audited
        ⟨if (reportAt surroundings root).isClean then 0 else 2,
          (reportAt surroundings root).encoded options.form, []⟩

variable {surroundings : Surroundings} {arguments : List String}

/-- The root of a project is the one that the run works with. -/
theorem roots_iff {options : Options} {root : String} :
    Roots surroundings options root ↔
      projectRoot options.project surroundings.currentDirectory = .ok root := by
  unfold Roots projectRoot
  cases options.project with
  | some asked => simp
  | none => cases surroundings.currentDirectory <;> simp

/-- Log lines are not among the errors. -/
theorem filterMap_errorLine?_logNotices (filter : Filter) (events : List Event) :
    (logNotices filter events).filterMap errorLine? = [] := by
  simp [logNotices, List.filterMap_map, Function.comp_def, errorLine?]

/-- What can be seen of a command that ended. -/
def seenOf (ended : Array UInt8 × Except Failure Verdict) : Seen :=
  ⟨(concluded ended.2).1, ended.1, (concluded ended.2).2.filterMap errorLine?⟩

/-- Of a run with a root the command is seen, whatever is logged. -/
theorem seen_runWith {options : Options} {root : String}
    (rooted : Roots surroundings options root) :
    seen (runWith surroundings options) =
      seenOf (Command.observed (perform surroundings options root).result) := by
  rw [runWith, roots_iff.1 rooted]
  simp only [seen, seenOf, Command.observed, Logged.after, List.filterMap_append,
    filterMap_errorLine?_logNotices, List.nil_append]

/-- A run with options is the run with what was read from its arguments. -/
theorem run_of_parse {options : Options} (parsed : Options.parse arguments = .ok options) :
    run surroundings arguments = runWith surroundings options := by
  rw [run, parsed]

/-- Texts on an output that takes all bytes come after what it has accepted. -/
theorem deliver_of_unfailing {sink : Sink} (unfailing : sink.Unfailing) (texts : List String) :
    sink.deliver texts = (sink.keep (Sink.bytes (String.join texts)), .ok ()) := by
  rw [Sink.deliver_of_fits (unfailing.fits _), Sink.flush, unfailing.flushes]

/-- A run that only shows a text ends with code zero. -/
theorem seen_showing (unfailing : surroundings.output.Unfailing)
    (fresh : surroundings.output.accepted = #[]) (text : String) :
    seen (showing surroundings.output text) = ⟨0, Sink.bytes text, []⟩ := by
  have whole : String.join [text] = text := by
    rw [String.join_cons, String.join_nil, String.append_empty]
  rw [showing, deliver_of_unfailing unfailing, whole]
  simp [seen, Sink.keep, fresh]

/-- A run that audits shows how the audit ends. -/
theorem seen_of_ending {options : Options} {root : String}
    (parsed : Options.parse arguments = .ok options) (rooted : Roots surroundings options root)
    (audits : options.listRules = false) {bytes : Array UInt8} {answer : Except Failure Verdict}
    (ending : Command.Ending surroundings.read surroundings.output
      (.standard root options.form) bytes answer) :
    seen (run surroundings arguments) = seenOf (bytes, answer) := by
  rw [run_of_parse parsed, seen_runWith rooted, perform, audits, if_neg Bool.false_ne_true,
    Command.observed_of_ending ending]

/-- A run that takes a course shows what the course says. -/
theorem seen_of_takes (unfailing : surroundings.output.Unfailing)
    (fresh : surroundings.output.accepted = #[]) {course : Course} {shown : Seen}
    (takes : Takes surroundings arguments course shown) :
    seen (run surroundings arguments) = shown := by
  cases takes with
  | misused parsed =>
    rw [run, parsed]
    simp [interrupted, seen, fresh, errorLine?, Notice.text, UsageError.exitCode]
  | helped parsed =>
    rw [run, parsed]
    exact seen_showing unfailing fresh _
  | versioned parsed =>
    rw [run, parsed]
    exact seen_showing unfailing fresh versionText
  | rootless parsed unasked unknown =>
    rw [run_of_parse parsed, runWith, unasked, unknown]
    simp only [projectRoot, seen, List.filterMap_append, filterMap_errorLine?_logNotices, fresh]
    rfl
  | listed parsed rooted lists =>
    rw [run_of_parse parsed, seen_runWith rooted, perform, if_pos lists]
    simp only [Logged.silent, Command.listRules, Command.deliver, deliver_of_unfailing unfailing,
      Command.observed, seenOf, Sink.keep, fresh, Array.empty_append]
    rfl
  | unreadable parsed rooted audits first =>
    cases first with
    | primary obstacle =>
      rw [seen_of_ending parsed rooted audits (.primaryUnreadable obstacle), fresh]
      rfl
    | supplementary loaded obstacle =>
      rw [seen_of_ending parsed rooted audits (.supplementaryUnreadable loaded obstacle), fresh]
      rfl
  | @audited options root parsed rooted audits primary supplementary =>
    have reported := Command.result_audit surroundings.read (.standard root options.form)
    simp only [Command.auditOutcome, Command.standard, primary, supplementary] at reported
    rw [seen_of_ending parsed rooted audits
      (.delivered reported (unfailing.fits _) unfailing.flushes), fresh, Array.empty_append]
    simp only [seenOf, concluded, Report.exitCode_verdict, reportAt]
    rfl

/-- The course that a run takes, found out step by step. -/
def course (surroundings : Surroundings) (arguments : List String) : Course :=
  match Options.parse arguments with
  | .error (.usage _) => .misused
  | .error _ => .informed
  | .ok options =>
    match projectRoot options.project surroundings.currentDirectory with
    | .error _ => .rootless
    | .ok root =>
      let layout := Layout.discover root
      if options.listRules then .listed
      else if (surroundings.read.obstacle? layout.primary).isNone &&
          (surroundings.read.obstacle? layout.supplementary).isNone then .audited
      else .unreadable

/-- Only the course that is found out has its conditions met. -/
theorem course_of_takes {taken : Course} {shown : Seen}
    (takes : Takes surroundings arguments taken shown) :
    course surroundings arguments = taken := by
  unfold course
  cases takes with
  | misused parsed => rw [parsed]
  | helped parsed => rw [parsed]
  | versioned parsed => rw [parsed]
  | rootless parsed unasked unknown =>
    rw [parsed]
    simp only [projectRoot, unasked, unknown]
  | listed parsed rooted lists =>
    rw [parsed]
    simp only [roots_iff.1 rooted, lists, if_true]
  | unreadable parsed rooted audits first =>
    rw [parsed]
    cases first with
    | primary obstacle => simp [roots_iff.1 rooted, audits, obstacle]
    | supplementary loaded obstacle => simp [roots_iff.1 rooted, audits, loaded, obstacle]
  | audited parsed rooted audits primary supplementary =>
    rw [parsed]
    simp [roots_iff.1 rooted, audits, primary, supplementary]

/-- Every run takes a course. The arguments are read first, then the root is found, then
the two paths are tried in order. -/
theorem exists_takes (surroundings : Surroundings) (arguments : List String) :
    ∃ taken shown, Takes surroundings arguments taken shown := by
  cases parsed : Options.parse arguments with
  | error interruption =>
    cases interruption with
    | help length => exact ⟨_, _, .helped parsed⟩
    | version => exact ⟨_, _, .versioned parsed⟩
    | usage error => exact ⟨_, _, .misused parsed⟩
  | ok options =>
    have rootedOrNot : (∃ root, Roots surroundings options root) ∨
        options.project = none ∧ ∃ cause, surroundings.currentDirectory = .error cause := by
      cases asked : options.project with
      | some root => exact .inl ⟨root, .inl asked⟩
      | none =>
        cases known : surroundings.currentDirectory with
        | ok root => exact .inl ⟨root, .inr ⟨asked, known⟩⟩
        | error cause => exact .inr ⟨rfl, cause, rfl⟩
    rcases rootedOrNot with ⟨root, rooted⟩ | ⟨unasked, cause, unknown⟩
    · cases lists : options.listRules with
      | true => exact ⟨_, _, .listed parsed rooted lists⟩
      | false =>
        cases primary : surroundings.read.obstacle? (Layout.discover root).primary with
        | some cause => exact ⟨_, _, .unreadable parsed rooted lists (.primary primary)⟩
        | none =>
          cases supplementary :
              surroundings.read.obstacle? (Layout.discover root).supplementary with
          | some cause =>
            exact ⟨_, _, .unreadable parsed rooted lists (.supplementary primary supplementary)⟩
          | none => exact ⟨_, _, .audited parsed rooted lists primary supplementary⟩
    · exact ⟨_, _, .rootless parsed unasked unknown⟩

/-- An audit that ends with code zero or two shows a whole report, and the code says
whether that report is clean. -/
theorem whole_of_judged {taken : Course} {shown : Seen}
    (takes : Takes surroundings arguments taken shown) {options : Options}
    (parsed : Options.parse arguments = .ok options) (audits : options.listRules = false)
    (judged : shown.exitCode = 0 ∨ shown.exitCode = 2) :
    ∃ root, Roots surroundings options root ∧
      shown.output = (reportAt surroundings root).encoded options.form ∧
      (shown.exitCode = 0 ↔ (reportAt surroundings root).isClean = true) := by
  cases takes with
  | misused wrong => cases parsed.symm.trans wrong
  | helped asked => cases parsed.symm.trans asked
  | versioned asked => cases parsed.symm.trans asked
  | rootless _ _ _ => simp at judged
  | listed same _ lists =>
    obtain rfl := Except.ok.inj (parsed.symm.trans same)
    cases audits.symm.trans lists
  | unreadable _ _ _ _ => simp at judged
  | @audited _ root same rooted _ _ _ =>
    obtain rfl := Except.ok.inj (parsed.symm.trans same)
    refine ⟨root, rooted, rfl, ?_⟩
    cases (reportAt surroundings root).isClean <;> simp

/-- Code two with nothing written is for wrong arguments: findings fill a report. -/
theorem misused_iff {taken : Course} {shown : Seen}
    (takes : Takes surroundings arguments taken shown) (two : shown.exitCode = 2) :
    shown.output = #[] ↔ ∃ error, Options.parse arguments = .error (.usage error) := by
  cases takes with
  | @misused error wrong => exact iff_of_true rfl ⟨error, wrong⟩
  | helped _ => simp at two
  | versioned _ => simp at two
  | rootless _ _ _ => simp at two
  | listed _ _ _ => simp at two
  | unreadable _ _ _ _ => simp at two
  | audited parsed _ _ _ _ =>
    refine iff_of_false (Report.encoded_ne_empty _ _) ?_
    rintro ⟨error, wrong⟩
    cases parsed.symm.trans wrong

/-- A run that ends with code one shows nothing on its output. -/
theorem empty_of_fatal {taken : Course} {shown : Seen}
    (takes : Takes surroundings arguments taken shown) (fatal : shown.exitCode = 1) :
    shown.output = #[] := by
  cases takes with
  | misused _ => rfl
  | helped _ => simp at fatal
  | versioned _ => simp at fatal
  | rootless _ _ _ => rfl
  | listed _ _ _ => simp at fatal
  | unreadable _ _ _ _ => rfl
  | audited _ _ _ _ _ =>
    simp only at fatal
    split at fatal <;> simp at fatal

/-- What is seen of a run tells of it. -/
structure Classified (surroundings : Surroundings) (arguments : List String) (shown : Seen) :
    Prop where
  /-- The run takes one course and no other. -/
  takes_one : ∃! taken, Takes surroundings arguments taken shown
  /-- Whenever the conditions of a course are met, what the course says is seen. -/
  eq_shown : ∀ taken other, Takes surroundings arguments taken other → other = shown
  /-- Code one: nothing was written. -/
  fatal : shown.exitCode = 1 → shown.output = #[]
  /-- Code zero or two after an audit: a whole report was written, and the code says
  whether it is clean. -/
  judged : ∀ options, Options.parse arguments = .ok options → options.listRules = false →
    shown.exitCode = 0 ∨ shown.exitCode = 2 →
      ∃ root, Roots surroundings options root ∧
        shown.output = (reportAt surroundings root).encoded options.form ∧
        (shown.exitCode = 0 ↔ (reportAt surroundings root).isClean = true)
  /-- Code two: the arguments are wrong exactly if nothing was written. -/
  misused : shown.exitCode = 2 →
    (shown.output = #[] ↔ ∃ error, Options.parse arguments = .error (.usage error))

/-- On an output that takes all bytes, every run takes exactly one course, which decides
on its exit code, its output and its errors. Nothing is written where the code is one; an
audit with another code has written a whole report; and code two with nothing written
means wrong arguments. -/
theorem run_classified (unfailing : surroundings.output.Unfailing)
    (fresh : surroundings.output.accepted = #[]) (arguments : List String) :
    Classified surroundings arguments (seen (run surroundings arguments)) := by
  obtain ⟨taken, shown, takes⟩ := exists_takes surroundings arguments
  have same : seen (run surroundings arguments) = shown := seen_of_takes unfailing fresh takes
  rw [same]
  constructor
  · refine ⟨taken, takes, fun other otherTakes => ?_⟩
    rw [← course_of_takes otherTakes, course_of_takes takes]
  · intro other otherShown otherTakes
    rw [← same, seen_of_takes unfailing fresh otherTakes]
  · exact empty_of_fatal takes
  · intro options parsed audits judged
    exact whole_of_judged takes parsed audits judged
  · exact misused_iff takes

/-- A run whose current directory cannot be told but which is given a project, the
supplementary manifest of which is no text. It takes the course of a manifest that cannot be
loaded, and says which one. -/
theorem run_classified_unreadable :
    let surroundings : Surroundings :=
      ⟨.error .noSuchFile,
        Reader.ofList [("p/python-requirements.txt", .ok "torch\n".toUTF8),
          ("p/scripts/python-requirements-ml.txt", .ok ⟨#[0xff]⟩)],
        some "debug", .unbounded⟩
    surroundings.output.Unfailing ∧ surroundings.output.accepted = #[] ∧
      Classified surroundings ["--format=json", "-pp"]
        (seen (run surroundings ["--format=json", "-pp"])) ∧
      course surroundings ["--format=json", "-pp"] = .unreadable ∧
      seen (run surroundings ["--format=json", "-pp"]) =
        ⟨1, #[], ["Error: Failed to read manifest at p/scripts/python-requirements-ml.txt: " ++
          "stream did not contain valid UTF-8"]⟩ := by
  intro surroundings
  have unfailing : surroundings.output.Unfailing := ⟨rfl, rfl⟩
  refine ⟨unfailing, rfl, run_classified unfailing rfl ["--format=json", "-pp"], ?_, ?_⟩
  · decide +kernel
  · decide +kernel

end Invocation

end ManifestAudit
