import ManifestAudit.Command

/-!
# What loading gives

For every state of the disk a path holds either a manifest, which may be a missing
one, or an obstacle that keeps it from being loaded. An audit meets the obstacle of
the primary path first and that of the supplementary path next; without either it
reports on the two manifests.
-/

namespace ManifestAudit

/-- What keeps the text at a path from being loaded, if anything does. That nothing
is there does not. -/
def Reader.obstacle? (read : Reader) (path : String) : Option IoError :=
  match read.text path with
  | .ok _ => none
  | .error cause => if cause.isAbsence then none else some cause

/-- The manifest that stands for a path without an obstacle. -/
def Reader.manifest (read : Reader) (path : String) : Manifest :=
  match read.text path with
  | .ok contents => .parse path contents
  | .error _ => .missing path

/-- A computation goes on with the result of its first part, and ends where that
failed. -/
theorem Logged.result_andThen {ε α β : Type} (first : Logged (Except ε α))
    (next : α → Logged (Except ε β)) :
    (first.andThen next).result =
      match first.result with
      | .error failure => .error failure
      | .ok value => (next value).result := by
  unfold andThen
  cases first.result <;> rfl

/-- Loading a path fails with its obstacle, naming the path, or gives its manifest. -/
theorem Manifest.result_load (read : Reader) (path : String) :
    (Manifest.load read path).result =
      match read.obstacle? path with
      | some cause => .error (.manifestRead path cause)
      | none => .ok (read.manifest path) := by
  unfold Manifest.load Reader.obstacle? Reader.manifest
  cases read.text path with
  | ok contents => rfl
  | error cause => cases absent : cause.isAbsence <;> simp [absent]

namespace Command

/-- The report on the manifests of the project at a root. -/
def projectReport (read : Reader) (root : String) (config : Config) : Report :=
  Audit.builtinReport config (read.manifest (Layout.discover root).primary)
    (read.manifest (Layout.discover root).supplementary)

/-- What an audit of the project at a root gives, by the obstacles on its paths. -/
def auditOutcome (read : Reader) (command : Command) : Except Failure Report :=
  let layout := Layout.discover command.root
  match read.obstacle? layout.primary, read.obstacle? layout.supplementary with
  | some cause, _ => .error (.manifestRead layout.primary cause)
  | none, some cause => .error (.manifestRead layout.supplementary cause)
  | none, none => .ok (projectReport read command.root command.config)

/-- An audit fails at the first obstacle and reports where there is none. -/
theorem result_audit (read : Reader) (command : Command) :
    (command.audit read).result = command.auditOutcome read := by
  have loading : (command.audit read).result =
      ((loadBoth read (Layout.discover command.root)).andThen fun manifests =>
        (Audit.run .builtin command.config manifests.1 manifests.2).succeed).result := rfl
  rw [loading, auditOutcome, loadBoth, Logged.result_andThen, Logged.result_andThen,
    Manifest.result_load]
  cases read.obstacle? (Layout.discover command.root).primary with
  | some cause => rfl
  | none =>
    simp only [Logged.result_andThen, Manifest.result_load]
    cases read.obstacle? (Layout.discover command.root).supplementary <;> rfl

end Command

end ManifestAudit
