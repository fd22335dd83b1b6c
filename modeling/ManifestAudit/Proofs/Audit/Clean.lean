import ManifestAudit.Proofs.Audit.Selection

/-!
# Clean reports

A report of the built-in rules is clean exactly if each of its parts is empty: no
name repeats, no name is known as one that should not be listed, and there is no
advice to give. Where a name stands and what the supplementary manifest lists do not
matter.
-/

namespace ManifestAudit.Audit

/-- Nothing is picked by a test on names exactly if every listed name fails the test. -/
theorem filter_entries_eq_nil_iff (test : String → Bool) (manifest : Manifest) :
    (manifest.entries.filter fun entry => test entry.name) = [] ↔
      ∀ name ∈ manifest.names, test name = false := by
  rw [List.filter_eq_nil_iff]
  constructor
  · intro untested name member
    obtain ⟨entry, listed, rfl⟩ := List.mem_map.1 member
    exact Bool.eq_false_iff.2 (untested entry listed)
  · intro failing entry listed
    have member : entry.name ∈ manifest.names := List.mem_map.2 ⟨entry, listed, rfl⟩
    exact Bool.eq_false_iff.1 (failing entry.name member)

/-- A report of the built-in rules is clean exactly if the supplementary manifest is
there and the primary one lists distinct names of which none is known. -/
theorem isClean_builtinReport_iff (config : Config) (primary supplementary : Manifest) :
    (builtinReport config primary supplementary).isClean = true ↔
      supplementary.isPresent = true ∧ primary.names.Nodup ∧
        (∀ name ∈ primary.names, name ∉ config.stdlib) ∧
        (∀ name ∈ primary.names, name ∉ config.heavy) := by
  have diagnostics : (builtinReport config primary supplementary).diagnostics = [] ↔
      primary.names.Nodup ∧ (∀ name ∈ primary.names, config.isStdlib name = false) ∧
        (∀ name ∈ primary.names, config.isHeavy name = false) := by
    have repeats : Rule.firstRepeats [] [] primary.entries = [] ↔ primary.names.Nodup :=
      Rule.firstRepeats_eq_nil_iff primary.entries
    rw [diagnostics_builtinReport, reportedKinds, List.flatMap_cons, List.flatMap_cons,
      List.flatMap_cons, List.flatMap_nil, List.append_nil, List.append_eq_nil_iff,
      List.append_eq_nil_iff]
    simp only [List.map_eq_nil_iff, picked, repeats, filter_entries_eq_nil_iff]
  have suggestions : (builtinReport config primary supplementary).suggestions = [] ↔
      supplementary.isPresent = true := by
    rw [builtinReport, suggestions_report]
    split <;> simp_all
  have known (set : NameSet) (name : String) : set.contains name = false ↔ name ∉ set := by
    rw [← NameSet.contains_eq_true, Bool.not_eq_true]
  rw [Report.isClean, Bool.and_eq_true, List.isEmpty_iff, List.isEmpty_iff, diagnostics,
    suggestions, and_comm]
  simp only [Config.isStdlib, Config.isHeavy, known]

end ManifestAudit.Audit
