import ManifestAudit.Proofs.Failure.Causes
import ManifestAudit.Proofs.Invocation.Logging

/-!
# What a failed run says

A run fails where its project has no root or where what was asked for could not be done. It
then says one thing about that, after its log lines, and nothing else makes it say such a
thing. A missing root is shown spelled out and any other failure by its text alone; but a
command only ever fails for an error of input or output, and spelling such a failure out adds
nothing to its text. So what is shown is spelled out either way. It leaves out no cause unless
that error has others below it.
-/

namespace ManifestAudit

namespace Command

/-- Texts that could not be delivered end in a failure of output. -/
theorem exists_io_of_deliver {sink : Sink} {texts : List String} {verdict : Verdict}
    {failure : Failure} (failed : (deliver sink texts verdict).2 = .error failure) :
    ∃ cause, failure = .io cause := by
  unfold deliver at failed
  split at failed
  · cases failed
  · rename_i cause _
    exact ⟨cause, (Except.error.inj failed).symm⟩

/-- An audit that ends without a verdict ends in a failure whose text names its cause. -/
theorem message_of_execute {read : Reader} {sink : Sink} {command : Command} {failure : Failure}
    (failed : (command.execute read sink).result.2 = .error failure) :
    failure.message = failure.spelledOut := by
  have ending := ending_observed read sink command
  simp only [observed, failed] at ending
  generalize (command.execute read sink).result.1.accepted = bytes at ending
  cases ending <;> rfl

end Command

namespace Invocation

variable {surroundings : Surroundings} {arguments : List String} {failure : Failure}

/-- What could not be done has a text that names its cause. -/
theorem message_of_perform {options : Options} {root : String}
    (failed : (perform surroundings options root).result.2 = .error failure) :
    failure.message = failure.spelledOut := by
  unfold perform at failed
  split at failed
  · obtain ⟨cause, rfl⟩ := Command.exists_io_of_deliver failed
    rfl
  · exact Command.message_of_execute failed

/-- The failures that a run ends in. -/
inductive EndsIn (surroundings : Surroundings) (arguments : List String) : Failure → Prop
  /-- The project has no root. -/
  | rootless {options : Options} {failure : Failure}
      (parsed : Options.parse arguments = .ok options)
      (unrooted : projectRoot options.project surroundings.currentDirectory = .error failure) :
      EndsIn surroundings arguments failure
  /-- What was asked for could not be done at the root. -/
  | undone {options : Options} {root : String} {failure : Failure}
      (parsed : Options.parse arguments = .ok options)
      (rooted : Roots surroundings options root)
      (failed : (perform surroundings options root).result.2 = .error failure) :
      EndsIn surroundings arguments failure

/-- A run that ends in a failure says so last and once, spelled out. -/
theorem EndsIn.exists_decided (endsIn : EndsIn surroundings arguments failure) :
    ∃ output, Decided fatalCode output [failure.spelledOut] (run surroundings arguments) := by
  cases endsIn with
  | rootless parsed unrooted =>
    refine ⟨surroundings.output, ?_⟩
    simp only [run_of_parse parsed, runWith, unrooted]
    exact ⟨_, rfl⟩
  | @undone options root _ parsed rooted failed =>
    refine ⟨(perform surroundings options root).result.1, ?_⟩
    -- The run shows the bare text here, which names the only cause.
    simp only [run_of_parse parsed, runWith, roots_iff.1 rooted, Logged.after, failed, concluded,
      message_of_perform failed]
    exact ⟨_, rfl⟩

/-- Log lines say nothing about a failure. -/
theorem failed_not_mem_logNotices (filter : Filter) (events : List Event) (text : String) :
    .failed text ∉ logNotices filter events := by
  simp [logNotices]

/-- A run that says something about a failure ends in one. -/
theorem exists_endsIn {text : String}
    (said : .failed text ∈ (run surroundings arguments).notices) :
    ∃ failure, EndsIn surroundings arguments failure := by
  cases parsed : Options.parse arguments with
  | error interruption =>
    rw [run, parsed] at said
    cases interruption <;> simp [interrupted, showing] at said
  | ok options =>
    cases rooted : projectRoot options.project surroundings.currentDirectory with
    | error failure => exact ⟨failure, .rootless parsed rooted⟩
    | ok root =>
      cases performed : (perform surroundings options root).result.2 with
      | error failure => exact ⟨failure, .undone parsed (roots_iff.2 rooted) performed⟩
      | ok verdict =>
        rw [run_of_parse parsed, runWith, rooted] at said
        simp only [Logged.after, performed, concluded, List.append_nil] at said
        exact absurd said (failed_not_mem_logNotices _ _ text)

/-- What a run says about a failure is a failure that it ends in, spelled out. -/
theorem failed_mem_notices_iff {text : String} :
    .failed text ∈ (run surroundings arguments).notices ↔
      ∃ failure, EndsIn surroundings arguments failure ∧ text = failure.spelledOut := by
  constructor
  · intro said
    obtain ⟨failure, endsIn⟩ := exists_endsIn said
    obtain ⟨output, log, outcome⟩ := endsIn.exists_decided
    have whole : text = failure.spelledOut := by simpa [outcome] using said
    exact ⟨failure, endsIn, whole⟩
  · rintro ⟨failure, endsIn, rfl⟩
    obtain ⟨output, log, outcome⟩ := endsIn.exists_decided
    simp [outcome]

/-- Without a root the run fails, even where only the rules are asked for. -/
example : (run ⟨.error .noSuchFile, Reader.ofList [], none, .unbounded⟩ ["--list-rules"]).notices =
    [.failed ("Cannot determine current directory: " ++
      "No such file or directory (os error 2)")] := by
  decide

/-- No cause is lost when a failure is shown, unless it lies below an error of input or output.
There is one way down from a failure. Spelled out it tells of every error on it, the outermost
first and each once, exactly if it leaves nothing untold; only a failure of input or output can
leave something untold, and does so exactly if the error that it names has others below it. What a
run says about a failure is always a failure spelled out, whichever way it came to say it. -/
theorem causes_told :
    (∀ failure : Failure, ∃ links,
      (∀ others, Descent failure.source? others ↔ others = links) ∧ failure.Tells links) ∧
    ∀ surroundings arguments text,
      .failed text ∈ (run surroundings arguments).notices ↔
        ∃ failure, EndsIn surroundings arguments failure ∧ text = failure.spelledOut := by
  constructor
  · exact Failure.exists_tells
  · intro surroundings arguments text
    exact failed_mem_notices_iff

/-- An output that is refused because of an error which was made out of another one: there are two
errors on the way down from the failure, and what is shown tells of the first of them alone. -/
theorem causes_untold :
    let cause := IoError.custom (.during "connection lost" (.first "timed out"))
    let failure := Failure.io cause
    let links := [Link.io cause, .cause (.first "timed out")]
    Descent failure.source? links ∧ links.length ≠ 1 ∧
      failure.spelledOut ≠
        failure.head ++ String.join (links.map fun link => ": " ++ link.text) ∧
      (run ⟨.ok "p", Reader.ofList [], none, .refusing cause rfl⟩ []).notices =
        [.failed "IO error: connection lost"] := by
  refine ⟨.onward (.onward .ended), ?_, ?_, ?_⟩ <;> decide

end Invocation

end ManifestAudit
