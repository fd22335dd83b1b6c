import ManifestAudit.Options.Argument
import ManifestAudit.Options.Basic
import ManifestAudit.Options.Usage

/-!
# Reading an argument list

Arguments are read from left to right. An option that takes a value takes it from
its own spelling or from the next argument, unless that looks like an option. A
separate value is looked at only when the next known option or the end is reached,
so an argument that stands for nothing is reported first. Every option may be
given once. After the separator nothing may follow.
-/

namespace ManifestAudit

/-- What has been read of an argument list. -/
structure Progress where
  /-- The project, once it was given. -/
  project : Option String
  /-- The form of the report, once it was given. -/
  form : Option ReportForm
  /-- Whether the rules list was asked for. -/
  listRules : Bool
  /-- Whether logging was asked for. -/
  debug : Bool
  /-- An option that is not settled yet, and its value once that was read. -/
  pending : Option (ValueOption × Option String)
deriving DecidableEq, Repr

namespace Progress

/-- Nothing read. -/
def start : Progress := ⟨none, none, false, false, none⟩

/-- The options that were read; what was not given is as it is by default. -/
def options (progress : Progress) : Options where
  project := progress.project
  form := progress.form.getD .human
  listRules := progress.listRules
  debug := progress.debug

/-- Give an option its value. -/
def assign (progress : Progress) (option : ValueOption) (value : String) :
    Except UsageError Progress :=
  match option with
  | .project =>
    if progress.project.isSome then .error (.repeatedOption .project)
    else if value.isEmpty then .error (.valueMissing .project)
    else .ok { progress with project := some value }
  | .form =>
    if progress.form.isSome then .error (.repeatedOption .form)
    else if value.isEmpty then .error (.valueMissing .form)
    else
      match ReportForm.ofName? false value with
      | none => .error (.unknownForm value)
      | some form => .ok { progress with form := some form }

/-- Settle the pending option. -/
def settle (progress : Progress) : Except UsageError Progress :=
  match progress.pending with
  | none => .ok progress
  | some (option, none) => .error (.valueMissing option)
  | some (option, some value) => { progress with pending := none }.assign option value

/-- Read an option that takes a value, with or without its value attached. -/
def readOption (progress : Progress) (option : ValueOption) (attached : Option String) :
    Except UsageError Progress :=
  match progress.settle with
  | .error error => .error error
  | .ok settled =>
    match attached with
    | some value => settled.assign option value
    | none => .ok { settled with pending := some (option, none) }

/-- Set a flag that was not set before. -/
def raise (progress : Progress) (flag : Flag) : Except UsageError Progress :=
  match flag with
  | .listRules =>
    if progress.listRules then .error (.repeatedFlag .listRules)
    else .ok { progress with listRules := true }
  | .debug =>
    if progress.debug then .error (.repeatedFlag .debug)
    else .ok { progress with debug := true }

/-- Read a flag. -/
def readFlag (progress : Progress) (flag : Flag) : Except UsageError Progress :=
  match progress.settle with
  | .error error => .error error
  | .ok settled => settled.raise flag

/-- Ask for help or the version, once what is pending is settled. -/
def interrupt (progress : Progress) (interruption : Interruption) : Interruption :=
  match progress.settle with
  | .error error => .usage error
  | .ok _ => interruption

/-- The reading goes on, or the arguments are wrong. -/
def orUsage (step : Except UsageError Progress) : Except Interruption Progress :=
  step.mapError .usage

/-- What a long name stands for. -/
inductive Meaning
  | option (option : ValueOption)
  | flag (flag : Flag)
  | ask (interruption : Interruption)

/-- The meaning of a name after two dashes. -/
def meaningOfLong? : String → Option Meaning
  | "project" => some (.option .project)
  | "format" => some (.option .form)
  | "list-rules" => some (.flag .listRules)
  | "debug" => some (.flag .debug)
  | "help" => some (.ask (.help .long))
  | "version" => some (.ask .version)
  | _ => none

/-- The meaning of a letter after one dash. -/
def meaningOfShort? : Char → Option Meaning
  | 'p' => some (.option .project)
  | 'h' => some (.ask (.help .short))
  | 'V' => some (.ask .version)
  | _ => none

/-- Read two dashes and a name. -/
def readLong (progress : Progress) (name : String) (value : Option String) :
    Except Interruption Progress :=
  match meaningOfLong? name, value with
  | none, _ => .error (.usage (.unexpected ("--" ++ name)))
  | some (.option option), _ => orUsage (progress.readOption option value)
  | some _, some refused => .error (.usage (.valueRefused ("--" ++ name) refused))
  | some (.flag flag), none => orUsage (progress.readFlag flag)
  | some (.ask interruption), none => .error (progress.interrupt interruption)

/-- Read one dash and a letter. -/
def readShort (progress : Progress) (letter : Char) (attached : String) :
    Except Interruption Progress :=
  match meaningOfShort? letter with
  | none => .error (.usage (.unexpected (String.ofList ['-', letter])))
  | some (.option option) => orUsage (progress.readOption option (Argument.attachedValue attached))
  | some (.flag flag) => orUsage (progress.readFlag flag)
  | some (.ask interruption) => .error (progress.interrupt interruption)

/-- Read a text that is no option: the value that the pending option waits for. -/
def readPlain (progress : Progress) (text : String) : Except Interruption Progress :=
  match progress.pending with
  | some (option, none) => .ok { progress with pending := some (option, some text) }
  | _ => .error (.usage (.unexpected text))

/-- Read one argument in front of the separator. -/
def read (progress : Progress) : Argument → Except Interruption Progress
  | .long name value => progress.readLong name value
  | .short letter attached => progress.readShort letter attached
  | .plain text => progress.readPlain text
  | .separator => .ok progress

/-- Read the rest of an argument list. -/
def readAll (progress : Progress) : List String → Except Interruption Progress
  | [] => orUsage progress.settle
  | argument :: rest =>
    match Argument.ofString argument with
    | .separator =>
      match rest with
      | [] => orUsage progress.settle
      | extra :: _ => .error (.usage (.unexpected extra))
    | spelled =>
      match progress.read spelled with
      | .error interruption => .error interruption
      | .ok next => next.readAll rest

end Progress

/-- The options that an argument list asks for, or what it gives in place of
them. -/
def Options.parse (arguments : List String) : Except Interruption Options :=
  (Progress.start.readAll arguments).map Progress.options

end ManifestAudit
