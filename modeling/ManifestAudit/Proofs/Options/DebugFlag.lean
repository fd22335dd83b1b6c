import ManifestAudit.Options.Parse

/-!
# The debug flag in front of other arguments

An argument list that does not ask for logging is read in the same way behind the debug
flag: the same options come out, with logging asked for. While it is read, nothing depends
on whether the flag was given but the flag itself, and once raised it stays so. A part of
reading is `Unaffected` if it goes on with logging asked for as it goes on without, unless
it asks for logging itself. What comes one after another is unaffected if its parts are.
-/

namespace ManifestAudit.Progress

/-- The same progress with logging asked for. -/
def withDebug (progress : Progress) : Progress := { progress with debug := true }

/-- A part of reading that ends with logging not asked for began without it, and ends alike
if logging was asked for before. -/
def Unaffected {ε : Type} (part : Progress → Except ε Progress) : Prop :=
  ∀ progress next, part progress = .ok next → next.debug = false →
    progress.debug = false ∧ part progress.withDebug = .ok next.withDebug

/-- One part after another. -/
theorem Unaffected.andThen {ε : Type} {first second : Progress → Except ε Progress}
    (firstPart : Unaffected first) (secondPart : Unaffected second) :
    Unaffected fun progress => (first progress).bind second := by
  intro progress next ended quiet
  dsimp only at ended ⊢
  cases between : first progress with
  | error failure =>
    rw [between] at ended
    cases ended
  | ok reached =>
    rw [between] at ended
    obtain ⟨quietBetween, secondAlike⟩ := secondPart reached next ended quiet
    obtain ⟨quietBefore, firstAlike⟩ := firstPart progress reached between quietBetween
    rw [firstAlike]
    exact ⟨quietBefore, secondAlike⟩

/-- Naming a failure as one of usage changes nothing else. -/
theorem Unaffected.orUsage {part : Progress → Except UsageError Progress}
    (unaffected : Unaffected part) : Unaffected fun progress => orUsage (part progress) := by
  intro progress next ended quiet
  dsimp only at ended ⊢
  cases partEnded : part progress with
  | error failure =>
    rw [partEnded] at ended
    cases ended
  | ok reached =>
    rw [partEnded] at ended
    obtain rfl : reached = next := Except.ok.inj ended
    obtain ⟨quietBefore, alike⟩ := unaffected progress reached partEnded quiet
    rw [alike]
    exact ⟨quietBefore, rfl⟩

/-- An option is read after the pending one is settled. -/
theorem readOption_eq (progress : Progress) (option : ValueOption) (attached : Option String) :
    progress.readOption option attached =
      progress.settle.bind fun settled =>
        match attached with
        | some value => settled.assign option value
        | none => .ok { settled with pending := some (option, none) } := by
  unfold readOption
  cases progress.settle <;> rfl

/-- A flag is read after the pending option is settled. -/
theorem readFlag_eq (progress : Progress) (flag : Flag) :
    progress.readFlag flag = progress.settle.bind fun settled => settled.raise flag := by
  unfold readFlag
  cases progress.settle <;> rfl

/-- In front of the separator the first argument is read, and then the others. -/
theorem readAll_cons {argument : String} (noSeparator : Argument.ofString argument ≠ .separator)
    (progress : Progress) (rest : List String) :
    progress.readAll (argument :: rest) =
      (progress.read (Argument.ofString argument)).bind fun next => next.readAll rest := by
  rw [readAll.eq_def]
  dsimp only
  split
  · rename_i separates
    exact absurd separates noSeparator
  · cases progress.read (Argument.ofString argument) <;> rfl

end ManifestAudit.Progress

namespace ManifestAudit.Options

end ManifestAudit.Options
