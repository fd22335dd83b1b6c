import ManifestAudit.Audit.Rule

/-!
# Registries of rules

A registry keeps rules in the order of their first registration and holds at most
one rule for an id. Registering a rule under an id that is taken puts the new
rule into the place of the old one.
-/

namespace ManifestAudit

/-- Rules with distinct ids, in running order. -/
structure Registry where
  rules : List Rule
  distinct : (rules.map Rule.id).Nodup

namespace Registry

/-- Put a rule into a list: in the place of the first rule with its id, or at the
end. -/
def place (rule : Rule) : List Rule → List Rule
  | [] => [rule]
  | first :: rest => if first.id = rule.id then rule :: rest else first :: place rule rest

/-- The ids after placing a rule: its own, and those that were there. -/
theorem mem_ids_place {rule : Rule} {rules : List Rule} {id : String} :
    id ∈ (place rule rules).map Rule.id ↔ id = rule.id ∨ id ∈ rules.map Rule.id := by
  induction rules with
  | nil => simp [place]
  | cons first rest inductionHypothesis =>
    unfold place
    split
    · rename_i same
      simp [same]
    · rw [List.map_cons, List.mem_cons, inductionHypothesis, List.map_cons, List.mem_cons]
      exact or_left_comm

/-- Placing a rule keeps ids distinct. -/
theorem nodup_place (rule : Rule) {rules : List Rule} (distinct : (rules.map Rule.id).Nodup) :
    ((place rule rules).map Rule.id).Nodup := by
  induction rules with
  | nil => simp [place]
  | cons first rest inductionHypothesis =>
    have apart := List.nodup_cons.1 distinct
    unfold place
    split
    · rename_i same
      rw [List.map_cons, ← same]
      exact List.nodup_cons.2 apart
    · rename_i different
      rw [List.map_cons]
      refine List.nodup_cons.2 ⟨fun member => ?_, inductionHypothesis apart.2⟩
      exact (mem_ids_place.1 member).elim different apart.1

/-- The registry without rules. -/
def empty : Registry := ⟨[], .nil⟩

/-- Register a rule. -/
def register (registry : Registry) (rule : Rule) : Registry :=
  ⟨place rule registry.rules, nodup_place rule registry.distinct⟩

/-- Register rules one after the other. -/
def registerAll (registry : Registry) (rules : List Rule) : Registry :=
  rules.foldl register registry

/-- The registry of the built-in rules. -/
def builtin : Registry := empty.registerAll Rule.builtins

/-- The built-in rules have distinct ids, so each of them keeps its place. -/
theorem rules_builtin : builtin.rules = Rule.builtins := rfl

instance : EmptyCollection Registry := ⟨empty⟩

instance : Inhabited Registry := ⟨empty⟩

/-- The rule registered under an id. -/
def get? (registry : Registry) (id : String) : Option Rule :=
  registry.rules.find? fun rule => rule.id == id

/-- How many rules there are. -/
def size (registry : Registry) : Nat := registry.rules.length

/-- Whether there are no rules. -/
def isEmpty (registry : Registry) : Bool := registry.rules.isEmpty

end Registry

end ManifestAudit
