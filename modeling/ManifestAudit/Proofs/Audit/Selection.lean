import ManifestAudit.Proofs.Audit.Findings

/-!
# What the built-in rules pick

Each built-in rule picks some entries of the primary manifest, in their order, and makes
one diagnostic of each (`diagnostics_builtinReport`). Which entries it picks is decided
by their names alone: a change of entries that keeps the names commutes with the picking
(`picked_map`), and how often a name is picked follows from how often it is listed
(`count_picked`), wherever its entries stand.

The duplicate rule is the one that looks at the order of entries. Its law is by
induction from the end of the list: an entry put there is picked exactly if it is the
second with its name.
-/

namespace ManifestAudit

namespace Rule

/-- The duplicate rule looks at names alone: changing entries but not their names
changes what it picks in the same way. -/
theorem firstRepeats_map {change : Entry → Entry}
    (sameName : ∀ entry, (change entry).name = entry.name) (seen repeated : List String)
    (entries : List Entry) :
    firstRepeats seen repeated (entries.map change) =
      (firstRepeats seen repeated entries).map change := by
  induction entries generalizing seen repeated with
  | nil => rfl
  | cons entry rest inductionHypothesis =>
    rw [List.map_cons, firstRepeats, firstRepeats, sameName]
    by_cases met : entry.name ∈ seen
    · by_cases reported : entry.name ∈ repeated
      · simp only [met, reported, not_true_eq_false, if_false, inductionHypothesis]
      · simp only [met, reported, not_true_eq_false, not_false_eq_true, if_false, if_true,
          List.map_cons, inductionHypothesis]
    · simp only [met, not_false_eq_true, if_true, inductionHypothesis]

/-- The duplicate rule picks entries that it was given, in their order. -/
theorem firstRepeats_sublist (seen repeated : List String) (entries : List Entry) :
    (firstRepeats seen repeated entries).Sublist entries := by
  induction entries generalizing seen repeated with
  | nil => exact .slnil
  | cons entry rest inductionHypothesis =>
    unfold firstRepeats
    split
    · exact (inductionHypothesis _ _).cons entry
    · split
      · exact (inductionHypothesis _ _).cons_cons entry
      · exact (inductionHypothesis _ _).cons entry

/-- The duplicate rule picks a name once if it is listed more than once, and else not
at all. -/
theorem count_firstRepeats (entries : List Entry) (name : String) :
    ((firstRepeats [] [] entries).map Entry.name).count name =
      if 1 < (entries.map Entry.name).count name then 1 else 0 := by
  induction entries using List.reverseRecOn with
  | nil => rfl
  | append_singleton above last inductionHypothesis =>
    rw [firstRepeats_nil_concat, List.map_append, List.count_append, inductionHypothesis,
      List.map_append, List.map_singleton, count_concat, secondListing]
    by_cases same : last.name = name
    · -- The last entry is picked only if it makes one listing of its name two.
      subst same
      by_cases second : (above.map Entry.name).count last.name = 1
      · simp [second]
      · simp only [second, if_false, if_true, List.map_nil, List.count_nil, Nat.add_zero]
        split <;> split <;> omega
    · have unchanged :
          ((if (above.map Entry.name).count last.name = 1 then [last] else []).map
            Entry.name).count name = 0 := by
        split <;> simp [same]
      rw [unchanged, if_neg same, Nat.add_zero, Nat.add_zero]

/-- A rule that tests names picks every entry of a name that passes, and no other. -/
theorem count_filter_entries (test : String → Bool) (entries : List Entry) (name : String) :
    ((entries.filter fun entry => test entry.name).map Entry.name).count name =
      if test name then (entries.map Entry.name).count name else 0 := by
  have onNames : (entries.filter fun entry => test entry.name).map Entry.name =
      (entries.map Entry.name).filter test := List.filter_map.symm
  rw [onNames]
  cases passes : test name with
  | true => exact List.count_filter passes
  | false =>
    refine List.count_eq_zero.2 fun member => ?_
    have tested : test name = true := (List.mem_filter.1 member).2
    simp [passes] at tested

end Rule

namespace Audit

/-- The kinds in the order in which the built-in rules report them. -/
def reportedKinds : List Kind := [.duplicate, .stdlibAsDependency, .heavyInMain]

/-- The entries that the built-in rule of a kind picks. -/
def picked (config : Config) (entries : List Entry) : Kind → List Entry
  | .duplicate => Rule.firstRepeats [] [] entries
  | .stdlibAsDependency => entries.filter fun entry => config.isStdlib entry.name
  | .heavyInMain => entries.filter fun entry => config.isHeavy entry.name

/-- The diagnostic that the built-in rule of a kind makes of an entry in a file. -/
def diagnosticOf (config : Config) (path : String) (kind : Kind) (entry : Entry) : Diagnostic :=
  ⟨kind, entry.name, sentence config entry.name kind, some ⟨path, entry.line⟩⟩

/-- The diagnostics of the built-in rules are those of the picked entries, kind after
kind. -/
theorem diagnostics_builtinReport (config : Config) (primary supplementary : Manifest) :
    (builtinReport config primary supplementary).diagnostics =
      reportedKinds.flatMap fun kind =>
        (picked config primary.entries kind).map (diagnosticOf config primary.path kind) := by
  rw [builtinReport, diagnostics_report, Registry.rules_builtin]
  rfl

/-- All that a report of the built-in rules is made of: the configuration, the path and
the entries of the primary manifest, and whether there is a supplementary one. -/
theorem builtinReport_eq (config : Config) (primary supplementary : Manifest) :
    builtinReport config primary supplementary =
      ⟨reportedKinds.flatMap fun kind =>
        (picked config primary.entries kind).map (diagnosticOf config primary.path kind),
        if supplementary.isPresent then [] else [splitSuggestion config]⟩ := by
  rw [← diagnostics_builtinReport config primary supplementary,
    ← suggestions_report .builtin config primary supplementary]
  rfl

/-- Changing entries but not their names changes what is picked in the same way. -/
theorem picked_map {change : Entry → Entry}
    (sameName : ∀ entry, (change entry).name = entry.name) (config : Config)
    (entries : List Entry) (kind : Kind) :
    picked config (entries.map change) kind = (picked config entries kind).map change := by
  cases kind with
  | duplicate => exact Rule.firstRepeats_map sameName [] [] entries
  | stdlibAsDependency => simp only [picked, List.filter_map, Function.comp_def, sameName]
  | heavyInMain => simp only [picked, List.filter_map, Function.comp_def, sameName]

/-- What is picked are entries of the manifest, in their order. -/
theorem picked_sublist (config : Config) (entries : List Entry) (kind : Kind) :
    (picked config entries kind).Sublist entries := by
  cases kind with
  | duplicate => exact Rule.firstRepeats_sublist [] [] entries
  | stdlibAsDependency => exact List.filter_sublist
  | heavyInMain => exact List.filter_sublist

/-- How often a kind is reported of a package that is listed so many times. -/
def timesReported (config : Config) (package : String) (listings : Nat) : Kind → Nat
  | .duplicate => if 1 < listings then 1 else 0
  | .stdlibAsDependency => if package ∈ config.stdlib then listings else 0
  | .heavyInMain => if package ∈ config.heavy then listings else 0

/-- How often a name is picked follows from how often it is listed. -/
theorem count_picked (config : Config) (entries : List Entry) (kind : Kind) (name : String) :
    ((picked config entries kind).map Entry.name).count name =
      timesReported config name ((entries.map Entry.name).count name) kind := by
  cases kind with
  | duplicate => exact Rule.count_firstRepeats entries name
  | stdlibAsDependency =>
    simp only [picked, Rule.count_filter_entries, timesReported, Config.isStdlib,
      NameSet.contains_eq_true]
  | heavyInMain =>
    simp only [picked, Rule.count_filter_entries, timesReported, Config.isHeavy,
      NameSet.contains_eq_true]

end Audit

end ManifestAudit
