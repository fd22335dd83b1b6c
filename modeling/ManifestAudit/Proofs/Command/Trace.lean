import ManifestAudit.Proofs.Command.Loading
import Mathlib.Algebra.GroupWithZero.Nat
import Mathlib.Data.List.SplitLengths

/-!
# The log of an audit

The events of an audit account for its outcome. Seeking a manifest leaves one event, unless it
fails and leaves none; it says whether a text was found and how many entries are listed. Each
rule leaves one event with a number, and these numbers cut the diagnostics of the report into
what the rules found. A suggestion leaves one event more. Where a manifest cannot be loaded the
log stops, and no rule is named in it.

The texts of the events are told apart from the events: they follow from the two paths, from what
lies there and from what each rule finds, and the log of an audit has these texts and no others.
-/

namespace ManifestAudit

namespace Logged

variable {ε α β : Type}

/-- What follows a value adds its events to those that led to the value. -/
theorem andThen_ok (events : List Event) (value : α) (next : α → Logged (Except ε β)) :
    andThen ⟨events, .ok value⟩ next = ⟨events ++ (next value).events, (next value).result⟩ := rfl

/-- Nothing follows a failure. -/
theorem andThen_error (events : List Event) (failure : ε) (next : α → Logged (Except ε β)) :
    andThen ⟨events, .error failure⟩ next = ⟨events, .error failure⟩ := rfl

/-- The events of a computation that goes on are those of its first part, and where that gave a
value those of the next. -/
theorem events_andThen (first : Logged (Except ε α)) (next : α → Logged (Except ε β)) :
    (first.andThen next).events = first.events ++
      match first.result with
      | .error _ => []
      | .ok value => (next value).events := by
  unfold andThen
  cases first.result with
  | error failure => exact (List.append_nil _).symm
  | ok value => rfl

end Logged

/-- What seeking a manifest may give and say, by what reading its path as text gave. -/
inductive Manifest.Sought (read : Reader) (path : String) : Logged (Except Failure Manifest) → Prop
  /-- There is a text; the event counts the entries of its manifest. -/
  | found {contents : String} (readable : read.text path = .ok contents) :
    Sought read path
      ⟨[.manifestParsed (parse path contents).entries.length path], .ok (.parse path contents)⟩
  /-- There is nothing; the event says so. -/
  | absent {cause : IoError} (unread : read.text path = .error cause)
      (nothing : cause.isAbsence = true) :
    Sought read path ⟨[.manifestMissing path], .ok (.missing path)⟩
  /-- There is something else than a text, and no event. -/
  | failed {cause : IoError} (unread : read.text path = .error cause)
      (something : cause.isAbsence = false) :
    Sought read path ⟨[], .error (.manifestRead path cause)⟩

namespace Manifest

/-- What the log says of a manifest that could be loaded. -/
def soughtMessage (manifest : Manifest) : String :=
  if manifest.isPresent then
    "Parsed " ++ toString manifest.size ++ " entries from " ++ manifest.path
  else "Manifest not found at " ++ manifest.path

variable {read : Reader} {path : String} {loaded : Logged (Except Failure Manifest)}

/-- Loading a path is seeking its manifest. -/
theorem sought_load (read : Reader) (path : String) : Sought read path (load read path) := by
  cases readable : read.text path with
  | ok contents =>
    simp only [load, readable]
    exact .found readable
  | error cause =>
    simp only [load, readable]
    split
    · rename_i nothing
      exact .absent readable nothing
    · rename_i something
      exact .failed readable (Bool.not_eq_true _ ▸ something)

/-- Seeking a manifest fails without an event, or gives a manifest with one. -/
theorem Sought.eq_or (sought : Sought read path loaded) :
    (∃ failure, loaded = ⟨[], .error failure⟩) ∨
      ∃ event manifest, loaded = ⟨[event], .ok manifest⟩ := by
  cases sought with
  | found => exact .inr ⟨_, _, rfl⟩
  | absent => exact .inr ⟨_, _, rfl⟩
  | failed => exact .inl ⟨_, rfl⟩

/-- Loading a path tells of its manifest, unless there is an obstacle. -/
theorem messages_load (read : Reader) (path : String) :
    (load read path).events.map Event.message =
      match read.obstacle? path with
      | some _ => []
      | none => [(read.manifest path).soughtMessage] := by
  -- Whether there is a text decides between two texts, neither of which needs to be computed.
  have tells (there : Bool) (entries : List Entry) :
      (⟨path, there, entries⟩ : Manifest).soughtMessage =
        if there then (Event.manifestParsed entries.length path).message
        else (Event.manifestMissing path).message := rfl
  unfold load Reader.obstacle? Reader.manifest
  cases read.text path with
  | ok contents => exact congrArg (fun message => [message]) (tells true _).symm
  | error cause =>
    dsimp only
    cases cause.isAbsence with
    | true => exact congrArg (fun message => [message]) (tells false _).symm
    | false => rfl

end Manifest

namespace Audit

/-- The log of rules that ran on a context, reckoned against their report with one number for
each rule. -/
structure Reckons (rules : List Rule) (context : Context) (log : List Event) (report : Report)
    (numbers : List Nat) : Prop where
  /-- The log tells the number of each rule in turn, and then of a missing supplementary
  manifest exactly if there is a suggestion. -/
  log_eq : log = List.zipWith (fun rule number => .ruleChecked rule.id number) rules numbers ++
    if report.suggestions.isEmpty then [] else [.supplementaryMissing context.supplementary.path]
  /-- There are as many numbers as rules. -/
  length_eq : numbers.length = rules.length
  /-- Blocks of these lengths, cut off the diagnostics one after another, are what each rule
  finds by itself. -/
  blocks_eq : numbers.splitLengths report.diagnostics = rules.map fun rule => rule.check context
  /-- The blocks leave no diagnostic over. -/
  sum_eq : numbers.sum = report.diagnostics.length

variable {rules : List Rule} {context : Context} {log : List Event} {report : Report}
  {numbers : List Nat}

/-- Without rules there are no diagnostics, and the log is that of the suggestions. -/
theorem reckons_nil (context : Context) :
    Reckons [] context (suggest context).events ⟨[], (suggest context).result⟩ [] := by
  refine ⟨?_, rfl, rfl, rfl⟩
  unfold suggest
  cases context.supplementary.isPresent <;> rfl

/-- One more rule in front adds its event to the front of the log and what it finds to the front
of the diagnostics. -/
theorem Reckons.cons (reckons : Reckons rules context log report numbers) (rule : Rule) :
    Reckons (rule :: rules) context
      (.ruleChecked rule.id (rule.check context).length :: log)
      ⟨rule.check context ++ report.diagnostics, report.suggestions⟩
      ((rule.check context).length :: numbers) := by
  constructor
  · rw [reckons.log_eq]
    rfl
  · rw [List.length_cons, List.length_cons, reckons.length_eq]
  · rw [List.splitLengths_cons, List.take_left, List.drop_left, reckons.blocks_eq, List.map_cons]
  · rw [List.sum_cons, reckons.sum_eq, List.length_append]

/-- What rules found, gathered with the suggestions, is reckoned rule by rule. -/
theorem exists_reckons_gather (rules : List Rule) (context : Context) :
    ∃ numbers, Reckons rules context (gather (findings rules context) (suggest context)).events
      (gather (findings rules context) (suggest context)).result numbers := by
  induction rules with
  | nil => exact ⟨[], reckons_nil context⟩
  | cons rule rest inductionHypothesis =>
    obtain ⟨numbers, reckons⟩ := inductionHypothesis
    exact ⟨_, reckons.cons rule⟩

/-- The number of a rule is that of the diagnostics that it finds by itself. -/
theorem Reckons.numbers_eq (reckons : Reckons rules context log report numbers) :
    numbers = rules.map fun rule => (rule.check context).length := by
  have lengths := List.map_splitLengths_length report.diagnostics numbers reckons.sum_eq.le
  rw [reckons.blocks_eq, List.map_map] at lengths
  exact lengths.symm

/-- What rules running on a context tell: of each rule how many diagnostics it gives, and of a
supplementary manifest that is missing. -/
def messages (rules : List Rule) (context : Context) : List String :=
  (rules.map fun rule => "Rule " ++ rule.id ++ " produced " ++
      toString (rule.check context).length ++ " diagnostic(s)") ++
    if context.supplementary.isPresent then []
    else ["Supplementary manifest missing at " ++ context.supplementary.path]

/-- An audit tells what its rules tell. -/
theorem messages_run (registry : Registry) (config : Config) (primary supplementary : Manifest) :
    (run registry config primary supplementary).events.map Event.message =
      messages registry.rules ⟨primary, supplementary, config⟩ := by
  rw [run, gather, findings, messages, suggest, List.map_append, List.map_map, List.map_map]
  cases supplementary.isPresent <;> rfl

/-- Each rule has its event in the log. -/
theorem Reckons.mem_log (reckons : Reckons rules context log report numbers) {rule : Rule}
    (member : rule ∈ rules) : .ruleChecked rule.id (rule.check context).length ∈ log := by
  rw [reckons.log_eq, reckons.numbers_eq, List.zipWith_map_right, List.zipWith_self]
  exact List.mem_append_left _ (List.mem_map_of_mem member)

end Audit

namespace Command

open Manifest (Sought)

/-- What an audit may give and say, by what seeking its manifests gave and said. -/
inductive Traced (read : Reader) (command : Command) : Logged (Except Failure Report) → Prop
  /-- The primary manifest cannot be loaded: only the two paths are named. -/
  | primaryFailed {failure : Failure}
      (primarySought : Sought read (Layout.discover command.root).primary ⟨[], .error failure⟩) :
    Traced read command ⟨[.auditing (Layout.discover command.root)], .error failure⟩
  /-- The supplementary manifest cannot be loaded: the log stops after the event of the primary
  one. -/
  | supplementaryFailed {primary : Manifest} {primaryEvent : Event} {failure : Failure}
      (primarySought :
        Sought read (Layout.discover command.root).primary ⟨[primaryEvent], .ok primary⟩)
      (supplementarySought :
        Sought read (Layout.discover command.root).supplementary ⟨[], .error failure⟩) :
    Traced read command
      ⟨[.auditing (Layout.discover command.root), primaryEvent], .error failure⟩
  /-- Both manifests are loaded: an event for each of them comes before those of the rules. -/
  | completed {primary supplementary : Manifest} {primaryEvent supplementaryEvent : Event}
      {log : List Event} {report : Report} {numbers : List Nat}
      (primarySought :
        Sought read (Layout.discover command.root).primary ⟨[primaryEvent], .ok primary⟩)
      (supplementarySought : Sought read (Layout.discover command.root).supplementary
        ⟨[supplementaryEvent], .ok supplementary⟩)
      (reckons : Audit.Reckons Registry.builtin.rules ⟨primary, supplementary, command.config⟩
        log report numbers) :
    Traced read command
      ⟨.auditing (Layout.discover command.root) :: primaryEvent :: supplementaryEvent :: log,
        .ok report⟩

variable {read : Reader} {command : Command} {audited : Logged (Except Failure Report)}

/-- An audit has failed exactly if no rule is named in its log. -/
theorem Traced.failed_iff (traced : Traced read command audited) :
    (∃ failure, audited.result = .error failure) ↔
      ∀ id found, .ruleChecked id found ∉ audited.events := by
  cases traced with
  | primaryFailed => simp
  | supplementaryFailed primarySought => cases primarySought <;> simp
  | completed _ _ reckons =>
    have named := reckons.mem_log (show Rule.duplicatePackage ∈ _ from List.mem_cons_self)
    constructor
    · rintro ⟨failure, ⟨⟩⟩
    · intro unnamed
      exact absurd (.tail _ (.tail _ (.tail _ named))) (unnamed _ _)

/-- What an audit tells, by the obstacles on its paths. -/
def messages (read : Reader) (command : Command) : List String :=
  let layout := Layout.discover command.root
  let primary := read.manifest layout.primary
  let supplementary := read.manifest layout.supplementary
  ("Auditing " ++ layout.primary ++ " (supplementary: " ++ layout.supplementary ++ ")") ::
    match read.obstacle? layout.primary, read.obstacle? layout.supplementary with
    | some _, _ => []
    | none, some _ => [primary.soughtMessage]
    | none, none => primary.soughtMessage :: supplementary.soughtMessage ::
        Audit.messages Registry.builtin.rules ⟨primary, supplementary, command.config⟩

/-- The texts of an audit's events are what it tells. -/
theorem messages_audit (read : Reader) (command : Command) :
    (command.audit read).events.map Event.message = command.messages read := by
  rw [audit, Logged.after, List.map_cons, Logged.events_andThen, loadBoth, Logged.events_andThen,
    Logged.result_andThen, Manifest.result_load, messages, List.map_append, List.map_append,
    Manifest.messages_load]
  cases read.obstacle? (Layout.discover command.root).primary with
  | some cause => rfl
  | none =>
    simp only [Logged.events_andThen, Logged.result_andThen, Manifest.result_load,
      List.map_append, Manifest.messages_load]
    cases read.obstacle? (Layout.discover command.root).supplementary with
    | some cause => rfl
    | none => exact congrArg (_ :: _ :: _ :: ·) (Audit.messages_run _ _ _ _)

/-- The log of an audit accounts for its outcome, whatever the disk holds. First it names the
two paths. Then comes one event for each manifest that could be loaded, the primary one first,
which says that it is missing or how many entries it has; if one could not be loaded, the log
ends there. Then comes one event for each built-in rule in order, whose numbers cut the
diagnostics of the report into what the rules find by themselves, and last one for a missing
supplementary manifest exactly if the report has a suggestion. So an audit has failed exactly if
its log names no rule. The texts of the events are fixed as well. -/
theorem audit_traced (read : Reader) (command : Command) :
    Traced read command (command.audit read) ∧
      ((∃ failure, (command.audit read).result = .error failure) ↔
        ∀ id found, .ruleChecked id found ∉ (command.audit read).events) ∧
      (command.audit read).events.map Event.message = command.messages read := by
  suffices traced : Traced read command (command.audit read) from
    ⟨traced, traced.failed_iff, messages_audit read command⟩
  have primarySought := Manifest.sought_load read (Layout.discover command.root).primary
  have supplementarySought := Manifest.sought_load read (Layout.discover command.root).supplementary
  obtain ⟨failure, refused⟩ | ⟨primaryEvent, primary, loaded⟩ := primarySought.eq_or
  · rw [refused] at primarySought
    simp only [audit, loadBoth, refused, Logged.andThen_error, Logged.after]
    exact .primaryFailed primarySought
  · -- The supplementary path is looked at only now.
    rw [loaded] at primarySought
    obtain ⟨failure, refused⟩ | ⟨supplementaryEvent, supplementary, alsoLoaded⟩ :=
      supplementarySought.eq_or
    · rw [refused] at supplementarySought
      simp only [audit, loadBoth, loaded, refused, Logged.andThen_ok, Logged.andThen_error,
        Logged.after]
      exact .supplementaryFailed primarySought supplementarySought
    · rw [alsoLoaded] at supplementarySought
      obtain ⟨numbers, reckons⟩ := Audit.exists_reckons_gather Registry.builtin.rules
        ⟨primary, supplementary, command.config⟩
      simp only [audit, loadBoth, loaded, alsoLoaded, Logged.andThen_ok, Logged.after]
      exact .completed primarySought supplementarySought reckons

-- One repeated heavy package, and no supplementary manifest.
example :
    let read := Reader.ofList
      [("p/python-requirements.txt", .ok "torch\nrich\n# all\ntorch".toUTF8)]
    ((standard "p" .json).audit read).events.map Event.message =
      ["Auditing p/python-requirements.txt " ++
          "(supplementary: p/scripts/python-requirements-ml.txt)",
        "Parsed 3 entries from p/python-requirements.txt",
        "Manifest not found at p/scripts/python-requirements-ml.txt",
        "Rule duplicate-package produced 1 diagnostic(s)",
        "Rule stdlib-as-dependency produced 0 diagnostic(s)",
        "Rule heavy-in-main produced 2 diagnostic(s)",
        "Supplementary manifest missing at p/scripts/python-requirements-ml.txt"] := by
  decide

end Command

end ManifestAudit
