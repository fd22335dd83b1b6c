import ManifestAudit.Text.Hex

/-!
# Text without control sequences

A text that quotes what somebody typed may hold characters that steer a terminal.
`withoutControls` keeps the characters that show something, blanks and line ends,
and leaves out controls and the sequences that an escape character starts. A blank
or a line end is kept also in a sequence of one letter or of parameters, which it
cuts short; what stands behind it is shown up to the next control that is left
out. Whether the sequence is over then, or still waits for its end, is the choice
of who shows the text.
-/

namespace ManifestAudit.Text

/-- Where a reader stands with respect to control sequences. -/
inductive ControlState
  /-- Outside of any sequence. -/
  | ground
  /-- Right after an escape character. -/
  | escape
  /-- In an escape sequence that names its parts one by one. -/
  | intermediate
  /-- In a sequence that a letter ends. -/
  | parameters
  /-- In a string that the bell ends. -/
  | command
  /-- At the head of a string for a device. -/
  | deviceHead
  /-- Among the parameters of a string for a device. -/
  | deviceParameters
  /-- Among the intermediate signs of a string for a device. -/
  | deviceIntermediate
  /-- In a string that only the string terminator or another escape character ends. -/
  | payload
deriving DecidableEq, Repr

/-- What becomes of a sequence that a kept blank cuts short. -/
inductive CutSequence
  /-- It is over. -/
  | dropped
  /-- It goes on at the next control that is left out, unless a character past
  ASCII stands before that. -/
  | resumed
deriving DecidableEq, Repr

/-- Whether a character is past ASCII. -/
def isWide (c : Char) : Bool := 0x80 ≤ c.toNat

/-- Whether a control character is also a blank or a line end, which is kept
wherever controls act. -/
def isKeptControl (c : Char) : Bool := c = '\t' || c = '\n' || c = '\x0c' || c = '\r'

/-- Whether a character is kept outside of sequences. -/
def isKept (c : Char) : Bool :=
  isWide c || isKeptControl c || (0x20 ≤ c.toNat && c ≠ '\x7f')

/-- Whether a character past ASCII ends a payload: its encoding holds the byte of
the string terminator. -/
def holdsTerminator (c : Char) : Bool := isWide c && (String.utf8EncodeChar c).contains 0x9C

namespace ControlState

/-- The state after a printable ASCII character inside a sequence. -/
def advance (state : ControlState) (c : Char) : ControlState :=
  match state with
  | ground => ground
  | escape =>
    if c.toNat < 0x30 then intermediate
    else
      match c with
      | '[' => parameters
      | ']' => command
      | 'P' => deviceHead
      | 'X' | '^' | '_' => payload
      | _ => ground
  | intermediate => if c.toNat < 0x30 then intermediate else ground
  | parameters => if c.toNat < 0x40 then parameters else ground
  | command => command
  | deviceHead =>
    if c.toNat < 0x30 then deviceIntermediate
    else if c.toNat < 0x40 then deviceParameters
    else payload
  | deviceParameters =>
    if c.toNat < 0x30 then deviceIntermediate
    else if c.toNat < 0x3C then deviceParameters
    else payload
  | deviceIntermediate => if c.toNat < 0x30 then deviceIntermediate else payload
  | payload => payload

/-- The state after a character that is not shown. -/
def after (state : ControlState) (c : Char) : ControlState :=
  if c = '\x1b' then escape
  else if c = '\x18' || c = '\x1a' then ground
  else if isWide c then if state = payload && holdsTerminator c then ground else state
  else if c.toNat < 0x20 || c = '\x7f' then if state = command && c = '\x07' then ground else state
  else state.advance c

/-- Whether a character is shown in a state. Controls act in sequences, but inside
strings they are part of the string. -/
def shows (state : ControlState) (c : Char) : Bool :=
  match state with
  | ground => isKept c
  | escape | intermediate | parameters => isKeptControl c
  | _ => false

/-- The state behind a shown character. -/
def behind (state : ControlState) (cut : CutSequence) (c : Char) : ControlState :=
  match cut with
  | .dropped => ground
  | .resumed => if isWide c then ground else state

end ControlState

/-- The characters that are kept when reading starts in a state. While characters
are shown, a sequence that was cut short stands back. -/
def keptFrom (cut : CutSequence) (state : ControlState) (isShowing : Bool) :
    List Char → List Char
  | [] => []
  | c :: rest =>
    if (isShowing && isKept c) || state.shows c then
      c :: keptFrom cut (state.behind cut c) true rest
    else keptFrom cut (state.after c) false rest

/-- The text without controls and control sequences. -/
def withoutControls (cut : CutSequence) (text : String) : String :=
  String.ofList (keptFrom cut .ground false text.toList)

/-- How a character is shown in a log line: those that could steer a terminal are
written as their code. -/
def loggedChar (c : Char) : List Char :=
  match c with
  | '\x1b' => ['\\', 'x', '1', 'b']
  | '\x07' => ['\\', 'x', '0', '7']
  | '\x08' => ['\\', 'x', '0', '8']
  | '\x0c' => ['\\', 'x', '0', 'c']
  | '\x7f' => ['\\', 'x', '7', 'f']
  | _ =>
    if 0x80 ≤ c.toNat && c.toNat ≤ 0x9f then
      ['\\', 'u', '\x7b'] ++ hexDigits c.toNat ++ ['\x7d']
    else [c]

/-- A text as it is shown in a log line. -/
def logged (text : String) : String := String.ofList (text.toList.flatMap loggedChar)

end ManifestAudit.Text
