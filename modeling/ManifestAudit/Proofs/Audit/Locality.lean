import ManifestAudit.Audit.Engine
import ManifestAudit.Proofs.Audit.Registration

/-!
# Registrations as they show in a report

The diagnostics of a report are one flat list; nothing in it says where the findings of
one rule stop and those of the next one start. `foundBy` gives the list for any stretch
of rules, so that the list of a whole registry can be cut at the place of a rule: what
the rules above it found, what it found itself, and what the rules below it found.

A registration moves no cut. Under a new id it adds a block at the end, and under a held
id it exchanges the block of one place, be the old block or the new one empty or not.
What is suggested does not depend on the rules at all. That registrations may be repeated,
and may change places where one of them adds no block, is a law of the list of rules
(`place_place`, `place_comm`) which the report inherits.
-/

namespace ManifestAudit

namespace Registry

/-- Placing a rule a second time changes nothing. -/
theorem place_place (rule : Rule) (rules : List Rule) :
    place rule (place rule rules) = place rule rules := by
  induction rules with
  | nil => simp [place]
  | cons first rest inductionHypothesis =>
    by_cases same : first.id = rule.id
    · simp [place, same]
    · rw [place, if_neg same, place, if_neg same, inductionHypothesis]

/-- Two rules with different ids may be placed in either order if one of the ids is held.
Were both new, each order would put another rule last. -/
theorem place_comm {left right : Rule} (apart : left.id ≠ right.id) {rules : List Rule}
    (held : left.id ∈ rules.map Rule.id) :
    place right (place left rules) = place left (place right rules) := by
  induction rules with
  | nil => exact absurd held List.not_mem_nil
  | cons first rest inductionHypothesis =>
    by_cases isLeft : first.id = left.id
    · have notRight : first.id ≠ right.id := fun same => apart (isLeft.symm.trans same)
      simp only [place, if_pos isLeft, if_neg notRight, if_neg apart]
    · have later : left.id ∈ rest.map Rule.id :=
        (List.mem_cons.1 held).resolve_left (Ne.symm isLeft)
      by_cases isRight : first.id = right.id
      · simp only [place, if_neg isLeft, if_pos isRight, if_neg (Ne.symm apart)]
      · simp only [place, if_neg isLeft, if_neg isRight, inductionHypothesis later]

/-- Placing a rule under the id of the rule at a position sets that position. The ids are
distinct, so no rule in front of it is met first. -/
theorem place_eq_set {rule : Rule} {rules : List Rule} (distinct : (rules.map Rule.id).Nodup)
    {position : Nat} (bound : position < rules.length)
    (held : rules[position].id = rule.id) : place rule rules = rules.set position rule := by
  induction rules generalizing position with
  | nil => exact absurd bound (Nat.not_lt_zero position)
  | cons first rest inductionHypothesis =>
    have distinctRest := List.nodup_cons.1 distinct
    cases position with
    | zero =>
      have same : first.id = rule.id := held
      rw [place, if_pos same, List.set_cons_zero]
    | succ position =>
      have inRest : position < rest.length := Nat.lt_of_succ_lt_succ bound
      have heldInRest : rest[position].id = rule.id := held
      have different : first.id ≠ rule.id := by
        intro same
        apply distinctRest.1
        rw [same, ← heldInRest]
        exact List.mem_map_of_mem (List.getElem_mem inRest)
      rw [place, if_neg different, List.set_cons_succ,
        inductionHypothesis distinctRest.2 inRest heldInRest]

/-- A registry is known by its rules. -/
theorem eq_of_rules_eq {left right : Registry} (same : left.rules = right.rules) :
    left = right := by
  obtain ⟨rules, distinct⟩ := left
  obtain ⟨others, otherDistinct⟩ := right
  obtain rfl : rules = others := same
  rfl

/-- Registering a rule twice is registering it once. -/
theorem register_register (registry : Registry) (rule : Rule) :
    (registry.register rule).register rule = registry.register rule :=
  eq_of_rules_eq (place_place rule registry.rules)

/-- Two rules with different ids may be registered in either order if one of the ids is
held before. -/
theorem register_comm {registry : Registry} {left right : Rule} (apart : left.id ≠ right.id)
    (held : left.id ∈ registry.rules.map Rule.id ∨ right.id ∈ registry.rules.map Rule.id) :
    (registry.register left).register right = (registry.register right).register left := by
  apply eq_of_rules_eq
  rcases held with leftHeld | rightHeld
  · exact place_comm apart leftHeld
  · exact (place_comm (Ne.symm apart) rightHeld).symm

end Registry

namespace Audit

/-- What a stretch of rules finds, one rule after another. -/
def foundBy (rules : List Rule) (context : Context) : List Diagnostic :=
  rules.flatMap fun rule => rule.check context

/-- The findings of two stretches of rules follow one another. -/
theorem foundBy_append (above below : List Rule) (context : Context) :
    foundBy (above ++ below) context = foundBy above context ++ foundBy below context :=
  List.flatMap_append

/-- Setting a place exchanges its findings and no others. -/
theorem foundBy_set {rules : List Rule} {position : Nat} (bound : position < rules.length)
    (rule : Rule) (context : Context) :
    foundBy (rules.set position rule) context =
      foundBy (rules.take position) context ++ rule.check context ++
        foundBy (rules.drop (position + 1)) context := by
  rw [List.set_eq_take_append_cons_drop, if_pos bound, foundBy_append, List.append_assoc]
  rfl

/-- The findings of some rules, cut at the place of one of them. -/
theorem foundBy_eq_of_getElem {rules : List Rule} {position : Nat}
    (bound : position < rules.length) (context : Context) :
    foundBy rules context =
      foundBy (rules.take position) context ++ rules[position].check context ++
        foundBy (rules.drop (position + 1)) context := by
  have setToItself := foundBy_set bound rules[position] context
  rw [List.set_getElem_self] at setToItself
  exact setToItself

/-- How the report on a context changes when a rule is registered. -/
structure ChangesLocally (registry : Registry) (rule : Rule) (context : Context)
    (old new : Report) : Prop where
  /-- The suggestions stay. -/
  suggestions_eq : new.suggestions = old.suggestions
  /-- Under a new id the findings of the rule come behind all others, and the blocks of the
  others stay. -/
  appended : rule.id ∉ registry.rules.map Rule.id →
    new.diagnostics = old.diagnostics ++ rule.check context ∧
      findings (registry.register rule).rules context =
        findings registry.rules context ++ [(rule.id, rule.check context)]
  /-- Under the id of the rule at a position the block of that position is exchanged; the
  blocks above and below it stay. -/
  exchanged : ∀ position, (bound : position < registry.rules.length) →
    registry.rules[position].id = rule.id →
      old.diagnostics = foundBy (registry.rules.take position) context ++
        registry.rules[position].check context ++
        foundBy (registry.rules.drop (position + 1)) context ∧
      new.diagnostics = foundBy (registry.rules.take position) context ++
        rule.check context ++
        foundBy (registry.rules.drop (position + 1)) context ∧
      findings (registry.register rule).rules context =
        (findings registry.rules context).set position (rule.id, rule.check context)

variable (registry : Registry) (config : Config) (primary supplementary : Manifest)

/-- Registering a rule changes the report at the place of the rule only. -/
theorem changesLocally_register (rule : Rule) :
    ChangesLocally registry rule ⟨primary, supplementary, config⟩
      (report registry config primary supplementary)
      (report (registry.register rule) config primary supplementary) := by
  constructor
  · rw [suggestions_report, suggestions_report]
  · intro unheld
    have grown : (registry.register rule).rules = registry.rules ++ [rule] :=
      Registry.place_of_not_mem unheld
    constructor
    · simp [grown]
    · simp [grown, findings]
  · intro position bound held
    have exchanged : (registry.register rule).rules = registry.rules.set position rule :=
      Registry.place_eq_set registry.distinct bound held
    refine ⟨?_, ?_, ?_⟩
    · rw [diagnostics_report]
      exact foundBy_eq_of_getElem bound _
    · rw [diagnostics_report, exchanged]
      exact foundBy_set bound rule _
    · rw [exchanged, findings, findings, List.map_set]

/-- Registering a rule shows in the report only where the rule stands: under a new id its
findings are added at the end, under a held id they take the place of those of the rule
that is replaced, and everything else stays as it was. So the report is the same if the
rule is registered twice, and two registrations under different ids, one of which is
held, may come in either order. -/
theorem register_local (rule : Rule) :
    ChangesLocally registry rule ⟨primary, supplementary, config⟩
        (report registry config primary supplementary)
        (report (registry.register rule) config primary supplementary) ∧
      report ((registry.register rule).register rule) config primary supplementary =
        report (registry.register rule) config primary supplementary ∧
      ∀ other : Rule, other.id ≠ rule.id →
        rule.id ∈ registry.rules.map Rule.id ∨ other.id ∈ registry.rules.map Rule.id →
          report ((registry.register rule).register other) config primary supplementary =
            report ((registry.register other).register rule) config primary supplementary := by
  refine ⟨changesLocally_register registry config primary supplementary rule, ?_, ?_⟩
  · rw [Registry.register_register]
  · intro other apart held
    rw [Registry.register_comm (Ne.symm apart) held]

/-- A rule that watches for torch takes the place of the second built-in rule; it may be
registered before or after a rule of a new id. -/
theorem register_local_second :
    let rule : Rule := .watching "stdlib-as-dependency" "Own" "" .stdlibAsDependency
      ⟨["torch"], false, true, "no"⟩
    let other : Rule := .watching "own" "Other" "" .duplicate ⟨["torch"], true, false, "no"⟩
    let primary : Manifest := .parse "r.txt" "torch\nasyncio\ntorch\n"
    let supplementary : Manifest := .missing "m.txt"
    let context : Context := ⟨primary, supplementary, .standard⟩
    (Rule.stdlibAsDependency.id = rule.id ∧
      (report (Registry.builtin.register rule) .standard primary supplementary).diagnostics =
        foundBy [.duplicatePackage] context ++ rule.check context ++
          foundBy [.heavyInMain] context) ∧
      (other.id ≠ rule.id ∧ rule.id ∈ Registry.builtin.rules.map Rule.id ∧
        report ((Registry.builtin.register rule).register other) .standard primary supplementary =
          report ((Registry.builtin.register other).register rule) .standard primary
            supplementary) := by
  intro rule other primary supplementary context
  have isLocal := register_local .builtin .standard primary supplementary rule
  have apart : other.id ≠ rule.id := by decide
  have held : rule.id ∈ Registry.builtin.rules.map Rule.id := by decide
  exact ⟨⟨rfl, (isLocal.1.exchanged 1 (by decide) rfl).2.1⟩,
    apart, held, isLocal.2.2 other apart (.inl held)⟩

end Audit

end ManifestAudit
