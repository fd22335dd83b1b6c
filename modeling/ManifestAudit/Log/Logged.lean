import ManifestAudit.Log.Event

/-!
# Computations with a log

A logged computation has a result and the events it emitted, in order. One that
may fail stops at its first failure and keeps the events up to there.
-/

namespace ManifestAudit

/-- A result and the events that led to it. -/
structure Logged (α : Type) where
  events : List Event
  result : α
deriving DecidableEq, Repr

namespace Logged

/-- A result without events. -/
def silent {α : Type} (result : α) : Logged α := ⟨[], result⟩

/-- The computation after one more event in front. -/
def after {α : Type} (event : Event) (rest : Logged α) : Logged α :=
  ⟨event :: rest.events, rest.result⟩

/-- The computation with its result changed. -/
def map {α β : Type} (change : α → β) (logged : Logged α) : Logged β :=
  ⟨logged.events, change logged.result⟩

/-- A computation that cannot fail as one that may. -/
def succeed {ε α : Type} (logged : Logged α) : Logged (Except ε α) := logged.map .ok

/-- Go on with the result, if there is one; the events of both parts are kept in
order. -/
def andThen {ε α β : Type} (first : Logged (Except ε α)) (next : α → Logged (Except ε β)) :
    Logged (Except ε β) :=
  match first.result with
  | .error failure => ⟨first.events, .error failure⟩
  | .ok value => ⟨first.events ++ (next value).events, (next value).result⟩

end Logged

end ManifestAudit
