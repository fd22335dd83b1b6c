import ManifestAudit.Failure.Io

/-!
# Outputs

A sink is an output that keeps what it accepts. It may accept only so many bytes:
the write that goes past them is cut there and fails, and so does every later
one. Flushing it may fail as well.

A write that a signal interrupts is made again until it has an outcome, so an
interruption is never what a write fails with (`Sink.lasting`).
-/

namespace ManifestAudit

/-- An output and what it has accepted. -/
structure Sink where
  /-- How many bytes it still accepts; no bound where none is given. -/
  room : Option Nat
  /-- Why a write past the room fails. -/
  fullError : IoError
  /-- Why flushing fails, if it does. -/
  flushError : Option IoError
  /-- The bytes accepted so far. -/
  accepted : Array UInt8
  /-- A write past the room fails for good. -/
  lasting : fullError.isInterruption = false := by decide
deriving DecidableEq

namespace Sink

/-- An output that accepts everything. -/
def unbounded : Sink := ⟨none, .worded "", none, #[], rfl⟩

/-- An output that accepts nothing. -/
def refusing (cause : IoError) (lasting : cause.isInterruption = false) : Sink :=
  ⟨some 0, cause, none, #[], lasting⟩

instance : Inhabited Sink := ⟨unbounded⟩

/-- The bytes of a text. -/
def bytes (text : String) : Array UInt8 := text.toUTF8.data

/-- Write a text: all of it where it fits, else as many of its bytes as fit. -/
def write (sink : Sink) (text : String) : Sink × Except IoError Unit :=
  let new := bytes text
  match sink.room with
  | none => ({ sink with accepted := sink.accepted ++ new }, .ok ())
  | some room =>
    if new.size ≤ room then
      ({ sink with room := some (room - new.size), accepted := sink.accepted ++ new }, .ok ())
    else
      ({ sink with room := some 0, accepted := sink.accepted ++ new.take room },
        .error sink.fullError)

/-- Write texts one after the other, up to the first that fails. -/
def writeAll (sink : Sink) : List String → Sink × Except IoError Unit
  | [] => (sink, .ok ())
  | text :: rest =>
    match sink.write text with
    | (cut, .error cause) => (cut, .error cause)
    | (grown, .ok ()) => grown.writeAll rest

/-- Make sure that all accepted bytes are on their way. -/
def flush (sink : Sink) : Except IoError Unit :=
  match sink.flushError with
  | none => .ok ()
  | some cause => .error cause

/-- Write texts and flush. -/
def deliver (sink : Sink) (texts : List String) : Sink × Except IoError Unit :=
  match sink.writeAll texts with
  | (cut, .error cause) => (cut, .error cause)
  | (grown, .ok ()) => (grown, grown.flush)

end Sink

end ManifestAudit
