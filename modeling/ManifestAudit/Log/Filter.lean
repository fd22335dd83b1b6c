import ManifestAudit.Log.Event
import ManifestAudit.Text.Blank
import ManifestAudit.Text.Cut

/-!
# Log filters

A filter is a list of directives, each of which sets how much is logged about the
parts of the program whose target starts with a text. A directive may also ask for
a field that the event carries, or for a span around it. Of the directives that fit
an event the one with the longest target decides, of equal ones one that asks for
a field, and of these the last. A directive without a target fits every target.
-/

namespace ManifestAudit

/-- How much is logged. -/
inductive Verbosity
  | off
  | error
  | warn
  | info
  | debug
  | trace
deriving DecidableEq, Repr

namespace Verbosity

/-- All levels, from the quietest up. -/
def all : List Verbosity := [off, error, warn, info, debug, trace]

/-- The name of a level. -/
def name : Verbosity → String
  | off => "off"
  | error => "error"
  | warn => "warn"
  | info => "info"
  | debug => "debug"
  | trace => "trace"

/-- Whether events of the debug level are logged. -/
def admitsDebug (verbosity : Verbosity) : Bool := verbosity = debug || verbosity = trace

/-- The number that digits stand for; a plus sign may stand in front. -/
def numberOf? (text : List Char) : Option Nat :=
  let digits := if text.head? = some '+' then text.tail else text
  if digits.isEmpty || !digits.all Char.isDigit then none
  else some (Nat.ofDigitChars 10 digits 0)

/-- The level that a text names, by its number or by its name in either case. The
empty text names errors. -/
def ofText? (text : String) : Option Verbosity :=
  match (numberOf? text.toList).bind fun number => all[number]? with
  | some verbosity => some verbosity
  | none =>
    if text.isEmpty then some error
    else all.find? fun verbosity => verbosity.name.toList == text.toList.map Char.toLower

end Verbosity

/-- What a directive asks of an event besides its target. -/
inductive Scope
  /-- Nothing. -/
  | every
  /-- That it carries a field of the name. -/
  | carrying (field : String)
  /-- That it happens in a span of a name or with a value. No run opens a span. -/
  | inSpan
deriving DecidableEq, Repr

namespace Scope

/-- Whether an event has what is asked for. -/
def fits (scope : Scope) (event : Event) : Bool :=
  match scope with
  | every => true
  | carrying field => event.fieldNames.contains field
  | inSpan => false

/-- The scope that a span's name and a field spell. The field may have a value. -/
def ofNames (span field : List Char) : Scope :=
  if !span.isEmpty || field.contains '=' then inSpan else carrying (String.ofList field)

/-- The scope that the text behind an opening bracket spells, and what follows the
closing bracket: the name of a span, or one field in braces with or without a
name. -/
def ofBracket? (text : List Char) : Option (Scope × List Char) :=
  match text.span fun c => c ≠ ']' && c ≠ '\x7b' with
  | (_, ']' :: rest) => some (inSpan, rest)
  | (span, _ :: rest) =>
    match Text.cutAt '\x7d' rest with
    | (_ :: _, some (']' :: behind)) => some (ofNames span (Text.cutAt '\x7d' rest).1, behind)
    | _ => none
  | _ => none

end Scope

/-- The parts of a directive as they are spelled: what stands in front, the scope
that a bracket gives, and the level behind an equals sign. -/
structure DirectiveParts where
  word : Option (List Char)
  scope : Scope
  level : Option (List Char)
deriving DecidableEq, Repr

namespace DirectiveParts

/-- Whether a directive may start with a character that opens no bracket. -/
def mayStart (c : Char) : Bool := c.isAlphanum || "-:_".toList.contains c || 0x80 ≤ c.toNat

/-- The parts of a directive with a bracket, from the text in the bracket on. -/
def ofBracket? (word : Option (List Char)) (text : List Char) : Option DirectiveParts :=
  match Scope.ofBracket? text with
  | some (scope, '=' :: level) => some ⟨word, scope, some level⟩
  | some (scope, rest) => if (Text.dropBlanks rest).isEmpty then some ⟨word, scope, none⟩ else none
  | none => none

/-- The parts of a directive that starts with no blank. -/
def ofText? : List Char → Option DirectiveParts
  | [] => none
  | '[' :: rest => ofBracket? none rest
  | c :: rest =>
    if !mayStart c then none
    else
      match (c :: rest).span fun c => c ≠ '=' && c ≠ '[' with
      | (word, []) => some ⟨some word, .every, none⟩
      | (word, '=' :: level) => some ⟨some word, .every, some level⟩
      | (word, _ :: bracket) => ofBracket? (some word) bracket

end DirectiveParts

/-- How much is logged about the targets that start with a text, or about all. -/
structure Directive where
  target : Option String
  scope : Scope
  verbosity : Verbosity
deriving DecidableEq, Repr

namespace Directive

/-- The level that stands behind an equals sign. None at all logs everything. -/
def levelBehind? (level : List Char) : Option Verbosity :=
  if level.isEmpty then some .trace else Verbosity.ofText? (String.ofList level)

/-- The directive that a single word spells: a level, or a target of which
everything is logged. -/
def ofWord (word : List Char) : Directive :=
  match Verbosity.ofText? (String.ofList word) with
  | some verbosity => ⟨none, .every, verbosity⟩
  | none => ⟨some (String.ofList word), .every, .trace⟩

/-- The directive that parts make up. Without a level everything is logged, except
that a word alone may be a level. -/
def ofParts? : DirectiveParts → Option Directive
  | ⟨some word, .every, none⟩ => some (ofWord word)
  | ⟨word, scope, none⟩ => some ⟨word.map String.ofList, scope, .trace⟩
  | ⟨word, scope, some level⟩ =>
    (levelBehind? level).map (⟨word.map String.ofList, scope, ·⟩)

/-- The directive behind a blank. The blank belongs to its target, which therefore
no event has, and no level can be read. -/
def ofIndented? (text : List Char) (parts : DirectiveParts) : Option Directive :=
  if parts.level.isSome then none else some ⟨some (String.ofList text), parts.scope, .trace⟩

/-- The directive that a text spells. -/
def ofText? (text : List Char) : Option Directive :=
  match DirectiveParts.ofText? (Text.dropBlanks text) with
  | none => none
  | some parts => if text.head?.any Text.isBlank then ofIndented? text parts else ofParts? parts

/-- Whether a directive says something about an event. -/
def fits (directive : Directive) (event : Event) : Bool :=
  directive.scope.fits event &&
    match directive.target with
    | none => true
    | some start => start.toList.isPrefixOf event.target.toList

/-- How specific a directive is about targets. -/
def reach (directive : Directive) : Nat :=
  match directive.target with
  | none => 0
  | some start => start.length + 1

/-- How specific a directive is: its target counts first, then whether it asks for
a field. -/
def weight (directive : Directive) : Nat :=
  match directive.scope with
  | .carrying _ => 2 * directive.reach + 1
  | _ => 2 * directive.reach

end Directive

/-- Directives in the order in which they were given. -/
structure Filter where
  directives : List Directive
deriving DecidableEq, Repr

namespace Filter

/-- Cut at every comma and leave out empty pieces. -/
def pieces (text : List Char) : List (List Char) :=
  (text.splitOn ',').filter fun piece => !piece.isEmpty

/-- The filter that a text spells, if every directive in it is one. -/
def ofText? (text : String) : Option Filter :=
  ((pieces text.toList).mapM Directive.ofText?).map Filter.mk

/-- The filter that logs all events of the program up to a level. -/
def program (verbosity : Verbosity) : Filter := ⟨[⟨some "reqaudit", .every, verbosity⟩]⟩

/-- The filter of a run: everything where logging was asked for, else what the
environment asks for, else nothing below the level of information. -/
def ofRun (debug : Bool) (environment : Option String) : Filter :=
  if debug then program .debug else (environment.bind ofText?).getD (program .info)

/-- The more specific of two directives; the later one where they are equal. -/
def prefer (best : Option Directive) (next : Directive) : Option Directive :=
  match best with
  | none => some next
  | some chosen => if chosen.weight ≤ next.weight then some next else some chosen

/-- The directive that decides about an event. -/
def deciding? (filter : Filter) (event : Event) : Option Directive :=
  (filter.directives.filter fun directive => directive.fits event).foldl prefer none

/-- Whether an event is logged. -/
def admits (filter : Filter) (event : Event) : Bool :=
  match filter.deciding? event with
  | none => false
  | some directive => directive.verbosity.admitsDebug

end Filter

end ManifestAudit
