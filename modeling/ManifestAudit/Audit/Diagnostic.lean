import ManifestAudit.Path

/-!
# Diagnostics

A diagnostic is one finding about a package: its kind, a sentence for people and,
where the finding belongs to a line, the location of that line.
-/

namespace ManifestAudit

/-- What can be wrong with a listed package. -/
inductive Kind
  | duplicate
  | stdlibAsDependency
  | heavyInMain
deriving DecidableEq, Repr

namespace Kind

/-- The label that people see. -/
def label : Kind → String
  | duplicate => "DUPLICATE"
  | stdlibAsDependency => "STDLIB_AS_DEP"
  | heavyInMain => "HEAVY_IN_MAIN"

/-- The kind that a label stands for. -/
def ofLabel? : String → Option Kind
  | "DUPLICATE" => some duplicate
  | "STDLIB_AS_DEP" => some stdlibAsDependency
  | "HEAVY_IN_MAIN" => some heavyInMain
  | _ => none

@[simp] theorem ofLabel?_label (kind : Kind) : ofLabel? kind.label = some kind := by
  cases kind <;> rfl

/-- Kinds with the same label are the same. -/
theorem label_inj {left right : Kind} : left.label = right.label ↔ left = right := by
  constructor
  · intro same
    have named := congrArg ofLabel? same
    rw [ofLabel?_label, ofLabel?_label] at named
    exact Option.some.inj named
  · exact congrArg label

end Kind

/-- A line of a file. -/
structure Location where
  file : String
  line : Nat
deriving DecidableEq, Repr

/-- One finding. -/
structure Diagnostic where
  kind : Kind
  package : String
  message : String
  location : Option Location
deriving DecidableEq, Repr

namespace Location

/-- Whether two locations are the same line of the same file, however the file's
path is spelled. -/
def same (left right : Location) : Bool :=
  Path.same left.file right.file && left.line == right.line

end Location

namespace Diagnostic

/-- Whether two diagnostics say the same, however their files are spelled. -/
def same (left right : Diagnostic) : Bool :=
  left.kind == right.kind && left.package == right.package && left.message == right.message &&
    match left.location, right.location with
    | none, none => true
    | some here, some there => here.same there
    | _, _ => false

/-- The diagnostic without its location. -/
def unlocated (diagnostic : Diagnostic) : Diagnostic := { diagnostic with location := none }

end Diagnostic

end ManifestAudit
