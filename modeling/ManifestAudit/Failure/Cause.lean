/-!
# Causes

An error may have another one below it, which led to it: a context was put around that
one, or the error has a source of its own. Either way it has a text, and so has every
error below it down to the first.
-/

namespace ManifestAudit

/-- A first cause, and what was being done when it happened, innermost first. -/
inductive Cause
  | first (text : String)
  | during (context : String) (below : Cause)
deriving DecidableEq, Repr

namespace Cause

/-- The outermost text. -/
def message : Cause → String
  | first text => text
  | during context _ => context

/-- The cause right below the outermost text. -/
def below? : Cause → Option Cause
  | first _ => none
  | during _ below => some below

/-- The texts below the outermost one, in order. -/
def sources : Cause → List String
  | first _ => []
  | during _ below => below.message :: below.sources

/-- All texts in one line, the outermost first. -/
def spelledOut : Cause → String
  | first text => text
  | during context below => context ++ ": " ++ below.spelledOut

/-- Wrap a cause into contexts, the innermost of which comes first. -/
def within (cause : Cause) (contexts : List String) : Cause :=
  contexts.foldl (fun inner context => during context inner) cause

end Cause

end ManifestAudit
