import ManifestAudit.Audit.Registry

/-!
# Registries as ordered maps

A registry is what a sequence of registrations leaves behind. Read as a map from
ids to rules it forgets nothing and invents nothing: its ids are the registered
ones, each once and in the order in which they were first registered, and under
each of them stands the rule that was registered last. `Reflects` says so of a
registry and a sequence; one registration keeps it, and so does any number of them.

A registration is of one of two sorts. Under an id that is held it changes a single
rule and no place; under a new id it adds a place at the end.
-/

namespace ManifestAudit.Registry

/-- The rule registered last under an id, if any was. -/
def lastUnder? (registered : List Rule) (id : String) : Option Rule :=
  (registered.filter fun rule => rule.id == id).getLast?

/-- The registered ids, each once, in the order of their first registration. -/
def registeredIds (registered : List Rule) : List String :=
  (registered.map Rule.id).eraseDups

/-- One registration more decides on its own id and leaves the others as they are. -/
theorem lastUnder?_concat (registered : List Rule) (rule : Rule) (id : String) :
    lastUnder? (registered ++ [rule]) id =
      if rule.id = id then some rule else lastUnder? registered id := by
  unfold lastUnder?
  by_cases same : rule.id = id
  · simp [same]
  · simp [same]

/-- Nothing stands under an id exactly if it was never registered. -/
theorem lastUnder?_eq_none_iff {registered : List Rule} {id : String} :
    lastUnder? registered id = none ↔ id ∉ registered.map Rule.id := by
  rw [lastUnder?, List.getLast?_eq_none_iff, List.filter_eq_nil_iff, List.mem_map]
  constructor
  · rintro unmet ⟨rule, member, same⟩
    exact unmet rule member (beq_iff_eq.2 same)
  · intro unmet rule member same
    exact unmet ⟨rule, member, beq_iff_eq.1 same⟩

/-- One registration more adds its id at the end, unless the id was registered. -/
theorem registeredIds_concat (registered : List Rule) (rule : Rule) :
    registeredIds (registered ++ [rule]) =
      if rule.id ∈ registered.map Rule.id then registeredIds registered
      else registeredIds registered ++ [rule.id] := by
  unfold registeredIds
  rw [List.map_append, List.map_singleton, List.eraseDups_append]
  generalize registered.map Rule.id = ids
  by_cases known : rule.id ∈ ids
  · have nothing : [rule.id].removeAll ids = [] := by simp [List.removeAll, known]
    rw [nothing, if_pos known, List.eraseDups_nil, List.append_nil]
  · have itself : [rule.id].removeAll ids = [rule.id] := by simp [List.removeAll, known]
    rw [itself, if_neg known]
    rfl

/-- Placing a rule under an id that is held exchanges the rule with that id. No other
rule has it, so that no other rule changes. -/
theorem place_of_mem {rule : Rule} {rules : List Rule} (distinct : (rules.map Rule.id).Nodup)
    (held : rule.id ∈ rules.map Rule.id) :
    place rule rules = rules.map fun other => if other.id = rule.id then rule else other := by
  induction rules with
  | nil => exact absurd held List.not_mem_nil
  | cons first rest inductionHypothesis =>
    have apart := List.nodup_cons.1 distinct
    by_cases same : first.id = rule.id
    · have untouched : ∀ other ∈ rest, (if other.id = rule.id then rule else other) = other := by
        intro other member
        refine if_neg fun equal => apart.1 ?_
        exact List.mem_map.2 ⟨other, member, equal.trans same.symm⟩
      rw [place, if_pos same, List.map_cons, if_pos same, List.map_congr_left untouched,
        List.map_id']
    · have later : rule.id ∈ rest.map Rule.id :=
        (List.mem_cons.1 held).resolve_left (Ne.symm same)
      rw [place, if_neg same, List.map_cons, if_neg same, inductionHypothesis apart.2 later]

/-- Placing a rule under a new id puts it at the end. -/
theorem place_of_not_mem {rule : Rule} {rules : List Rule}
    (unheld : rule.id ∉ rules.map Rule.id) : place rule rules = rules ++ [rule] := by
  induction rules with
  | nil => rfl
  | cons first rest inductionHypothesis =>
    have apart := not_or.1 (mt List.mem_cons.2 unheld)
    rw [place, if_neg (Ne.symm apart.1), inductionHypothesis apart.2, List.cons_append]

/-- A rule that is held is found under its id. -/
theorem get?_of_mem {registry : Registry} {rule : Rule} (held : rule ∈ registry.rules) :
    registry.get? rule.id = some rule := by
  have search : ∀ rules : List Rule, (rules.map Rule.id).Nodup → rule ∈ rules →
      rules.find? (fun other => other.id == rule.id) = some rule := by
    intro rules
    induction rules with
    | nil => exact fun _ member => absurd member List.not_mem_nil
    | cons first rest inductionHypothesis =>
      intro distinct member
      have apart := List.nodup_cons.1 distinct
      rcases List.mem_cons.1 member with rfl | later
      · exact List.find?_cons_of_pos (beq_self_eq_true _)
      · have different : (first.id == rule.id) = false := by
          refine beq_eq_false_iff_ne.2 fun same => ?_
          exact apart.1 (List.mem_map.2 ⟨rule, later, same.symm⟩)
        rw [List.find?_cons, different]
        exact inductionHypothesis apart.2 later
  exact search registry.rules registry.distinct held

/-- Nothing is found under an id exactly if no rule has it. -/
theorem get?_eq_none_iff {registry : Registry} {id : String} :
    registry.get? id = none ↔ id ∉ registry.rules.map Rule.id := by
  rw [get?, List.find?_eq_none, List.mem_map]
  constructor
  · rintro unmet ⟨rule, member, same⟩
    exact unmet rule member (beq_iff_eq.2 same)
  · intro unmet rule member same
    exact unmet ⟨rule, member, beq_iff_eq.1 same⟩

/-- A registry holds what a sequence of registrations leaves: the ids in the order of
their first registration, and under each of them the rule registered last. -/
structure Reflects (registry : Registry) (registered : List Rule) : Prop where
  ids_eq : registry.rules.map Rule.id = registeredIds registered
  latest : ∀ rule ∈ registry.rules, lastUnder? registered rule.id = some rule

/-- Before any registration there is no rule. -/
theorem reflects_empty : Reflects empty [] := ⟨rfl, fun _ member => absurd member List.not_mem_nil⟩

/-- The ids that are held are those that were registered. -/
theorem Reflects.mem_ids_iff {registry : Registry} {registered : List Rule}
    (reflects : Reflects registry registered) {id : String} :
    id ∈ registry.rules.map Rule.id ↔ id ∈ registered.map Rule.id := by
  rw [reflects.ids_eq, registeredIds, List.mem_eraseDups]

/-- What is found under an id is the rule registered last. -/
theorem Reflects.get?_eq {registry : Registry} {registered : List Rule}
    (reflects : Reflects registry registered) (id : String) :
    registry.get? id = lastUnder? registered id := by
  by_cases held : id ∈ registry.rules.map Rule.id
  · obtain ⟨rule, member, rfl⟩ := List.mem_map.1 held
    rw [get?_of_mem member, reflects.latest rule member]
  · rw [get?_eq_none_iff.2 held, eq_comm, lastUnder?_eq_none_iff, ← reflects.mem_ids_iff]
    exact held

/-- A registration is reflected by the registry that it gives. Under a held id the ids
stay and the exchanged rule is now the last one; under a new id both the ids and the
rules grow by one at the end. -/
theorem Reflects.register {registry : Registry} {registered : List Rule}
    (reflects : Reflects registry registered) (rule : Rule) :
    Reflects (registry.register rule) (registered ++ [rule]) := by
  by_cases held : rule.id ∈ registry.rules.map Rule.id
  · have known : rule.id ∈ registered.map Rule.id := reflects.mem_ids_iff.1 held
    have exchanged : (registry.register rule).rules =
        registry.rules.map fun other => if other.id = rule.id then rule else other :=
      place_of_mem registry.distinct held
    constructor
    · have sameId : ∀ other ∈ registry.rules,
          (if other.id = rule.id then rule else other).id = other.id := by
        intro other _
        split
        · rename_i same
          exact same.symm
        · rfl
      rw [exchanged, List.map_map, registeredIds_concat, if_pos known, ← reflects.ids_eq]
      exact List.map_congr_left sameId
    · intro found member
      rw [exchanged] at member
      obtain ⟨other, old, rfl⟩ := List.mem_map.1 member
      rw [lastUnder?_concat]
      by_cases same : other.id = rule.id
      · simp [same]
      · rw [if_neg same, if_neg (Ne.symm same)]
        exact reflects.latest other old
  · have unknown : rule.id ∉ registered.map Rule.id := mt reflects.mem_ids_iff.2 held
    have grown : (registry.register rule).rules = registry.rules ++ [rule] :=
      place_of_not_mem held
    constructor
    · rw [grown, List.map_append, reflects.ids_eq, registeredIds_concat, if_neg unknown]
      rfl
    · intro found member
      rw [grown] at member
      rw [lastUnder?_concat]
      rcases List.mem_append.1 member with old | new
      · have different : rule.id ≠ found.id := by
          intro same
          exact held (same ▸ List.mem_map.2 ⟨found, old, rfl⟩)
        rw [if_neg different]
        exact reflects.latest found old
      · obtain rfl := List.mem_singleton.1 new
        exact if_pos rfl

/-- A run of registrations is reflected by the registry at its end. -/
theorem Reflects.registerAll {registry : Registry} {before : List Rule}
    (reflects : Reflects registry before) (later : List Rule) :
    Reflects (registry.registerAll later) (before ++ later) := by
  induction later generalizing registry before with
  | nil =>
    rw [List.append_nil]
    exact reflects
  | cons rule rest inductionHypothesis =>
    have next := inductionHypothesis (reflects.register rule)
    rw [List.append_assoc, List.singleton_append] at next
    exact next

/-- The built-in registry reflects the registration of the built-in rules. -/
theorem reflects_builtin : Reflects builtin Rule.builtins :=
  reflects_empty.registerAll Rule.builtins

/-- What can be asked of a registry after a sequence of registrations: the ids that it
holds, its rules in order, the rule under each id, and how many there are. -/
structure AnswersAsMap (registry : Registry) (registered : List Rule) : Prop where
  /-- No id is held twice. -/
  distinct : (registry.rules.map Rule.id).Nodup
  /-- The ids come in the order of their first registration. -/
  ids_eq : registry.rules.map Rule.id = registeredIds registered
  /-- Each rule is the one registered last under its id. -/
  rules_eq : registry.rules.map some = (registeredIds registered).map (lastUnder? registered)
  /-- The rule under an id is the one registered last. -/
  get?_eq : ∀ id, registry.get? id = lastUnder? registered id
  /-- Exactly the ids that were never registered have no rule. -/
  get?_eq_none_iff : ∀ id, registry.get? id = none ↔ id ∉ registered.map Rule.id
  /-- There are as many rules as distinct ids. -/
  size_eq : registry.size = (registeredIds registered).length
  /-- A registry is empty exactly if there are none. -/
  isEmpty_iff : registry.isEmpty = true ↔ registry.size = 0

/-- A registry that reflects a sequence of registrations answers as the ordered map
that the sequence makes. -/
theorem Reflects.answersAsMap {registry : Registry} {registered : List Rule}
    (reflects : Reflects registry registered) : AnswersAsMap registry registered where
  distinct := registry.distinct
  ids_eq := reflects.ids_eq
  rules_eq := by
    rw [← reflects.ids_eq, List.map_map]
    exact List.map_congr_left fun rule member => (reflects.latest rule member).symm
  get?_eq := reflects.get?_eq
  get?_eq_none_iff id := by rw [reflects.get?_eq, lastUnder?_eq_none_iff]
  size_eq := by rw [← reflects.ids_eq, List.length_map, size]
  isEmpty_iff := by rw [isEmpty, size, List.isEmpty_iff, List.length_eq_zero_iff]

/-- The built-in registry holds three rules, in this order. -/
theorem ids_builtin : builtin.rules.map Rule.id =
    ["duplicate-package", "stdlib-as-dependency", "heavy-in-main"] := by
  decide

/-- After any sequence of registrations a registry answers as the insertion-ordered
map that the sequence makes, be it started empty or with the built-in rules, which
then count as registered first. These are three, and in order. -/
theorem registerAll_answersAsMap (registered : List Rule) :
    AnswersAsMap (empty.registerAll registered) registered ∧
      AnswersAsMap (builtin.registerAll registered) (Rule.builtins ++ registered) ∧
      builtin.rules.map Rule.id =
        ["duplicate-package", "stdlib-as-dependency", "heavy-in-main"] := by
  have fromEmpty : Reflects (empty.registerAll registered) registered :=
    reflects_empty.registerAll registered
  have fromBuiltin : Reflects (builtin.registerAll registered) (Rule.builtins ++ registered) :=
    reflects_builtin.registerAll registered
  exact ⟨fromEmpty.answersAsMap, fromBuiltin.answersAsMap, ids_builtin⟩

-- A replaced built-in rule keeps its place; the last registration under an id stands.
example :
    let watch : Rule.Watch := ⟨["left-pad"], false, true, "no"⟩
    let rule (id name : String) : Rule := .watching id name "" .duplicate watch
    ((builtin.registerAll
        [rule "own" "first", rule "heavy-in-main" "other", rule "own" "second"]).rules.map
          fun held => (held.id, held.name)) =
      [("duplicate-package", "Duplicate Package"), ("stdlib-as-dependency", "Stdlib As Dependency"),
       ("heavy-in-main", "other"), ("own", "second")] := by
  decide

end ManifestAudit.Registry
