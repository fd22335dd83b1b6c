import ManifestAudit.Proofs.Audit.Selection
import Mathlib.Data.List.Count

/-!
# Reports grow with what is listed

How often the built-in rules report a package is decided by how often it is listed, by
the two sets of known names and by whether there is a supplementary manifest, and it
can only grow with each of them. The order of the entries has no part in it, although
it decides where a repeated package is reported: the findings of two reports with equal
counts are the same up to their order.

`Context.Within` compares two audits in these terms, and the main statement says that
reports follow it.
-/

namespace ManifestAudit

/-- What a report finds: the kind and the package of each diagnostic, in order. -/
def Report.found (report : Report) : List (Kind × String) :=
  report.diagnostics.map fun diagnostic => (diagnostic.kind, diagnostic.package)

/-- A report with fewer findings of every sort and fewer suggestions has no greater exit
code: it is clean if the other one is. -/
theorem Report.exitCode_le {less more : Report}
    (found : ∀ finding, less.found.count finding ≤ more.found.count finding)
    (suggestions : less.suggestions.length ≤ more.suggestions.length) :
    less.exitCode ≤ more.exitCode := by
  cases cleanness : more.isClean with
  | true =>
    obtain rfl := Report.isClean_iff.1 cleanness
    have nothingFound : less.found = [] := by
      apply List.eq_nil_iff_forall_not_mem.2
      intro finding member
      have counted : 0 < less.found.count finding := List.count_pos_iff.2 member
      have bound : less.found.count finding ≤ 0 := found finding
      omega
    have noDiagnostics : less.diagnostics = [] := List.map_eq_nil_iff.1 nothingFound
    have noSuggestions : less.suggestions = [] :=
      List.length_eq_zero_iff.1 (Nat.le_zero.1 suggestions)
    simp [exitCode, isClean, noDiagnostics, noSuggestions, empty]
  | false =>
    rw [exitCode, exitCode, cleanness]
    cases less.isClean <;> decide

namespace Audit

/-- A finding of a kind is not one of another kind, and among those of its kind it is
counted by its package. -/
theorem count_ofKind (kind other : Kind) (packages : List String) (package : String) :
    (packages.map (Prod.mk other)).count (kind, package) =
      if other = kind then packages.count package else 0 := by
  by_cases same : other = kind
  · subst same
    have distinct : Function.Injective (Prod.mk other : String → Kind × String) :=
      fun _ _ equal => (Prod.mk.inj equal).2
    rw [if_pos rfl, List.count_map_of_injective packages (Prod.mk other) distinct]
  · rw [if_neg same, List.count_eq_zero]
    intro member
    obtain ⟨_, _, labelled⟩ := List.mem_map.1 member
    exact same (Prod.mk.inj labelled).1

/-- How often the built-in rules find a kind of a package follows from how often the
package is listed. -/
theorem count_found_builtinReport (config : Config) (primary supplementary : Manifest)
    (kind : Kind) (package : String) :
    (builtinReport config primary supplementary).found.count (kind, package) =
      timesReported config package (primary.names.count package) kind := by
  have byKind : (builtinReport config primary supplementary).found =
      reportedKinds.flatMap fun other =>
        ((picked config primary.entries other).map Entry.name).map (Prod.mk other) := by
    simp only [Report.found, diagnostics_builtinReport, List.map_flatMap, List.map_map]
    rfl
  have listed : (primary.entries.map Entry.name).count package = primary.names.count package := rfl
  simp only [byKind, reportedKinds, List.flatMap_cons, List.flatMap_nil, List.append_nil,
    List.count_append, count_ofKind, count_picked, listed]
  cases kind <;> simp

/-- More listings and larger sets of known names give no fewer reports of a package. -/
theorem timesReported_le {less more : Config}
    (stdlib : ∀ name ∈ less.stdlib, name ∈ more.stdlib)
    (heavy : ∀ name ∈ less.heavy, name ∈ more.heavy) {package : String} {fewer listings : Nat}
    (atMost : fewer ≤ listings) (kind : Kind) :
    timesReported less package fewer kind ≤ timesReported more package listings kind := by
  cases kind with
  | duplicate =>
    simp only [timesReported]
    split <;> split <;> omega
  | stdlibAsDependency =>
    by_cases known : package ∈ less.stdlib
    · simpa only [timesReported, if_pos known, if_pos (stdlib package known)] using atMost
    · simp only [timesReported, if_neg known, Nat.zero_le]
  | heavyInMain =>
    by_cases known : package ∈ less.heavy
    · simpa only [timesReported, if_pos known, if_pos (heavy package known)] using atMost
    · simp only [timesReported, if_neg known, Nat.zero_le]

end Audit

namespace Context

/-- The report of the built-in rules on a context. -/
def report (context : Context) : Report :=
  Audit.builtinReport context.config context.primary context.supplementary

/-- One context gives the rules no more to find than another: it lists no name more
often and knows no other names, and where its supplementary manifest is missing, the
other one's is missing too. -/
structure Within (less more : Context) : Prop where
  listed : ∀ name, less.primary.names.count name ≤ more.primary.names.count name
  stdlib : ∀ name ∈ less.config.stdlib, name ∈ more.config.stdlib
  heavy : ∀ name ∈ less.config.heavy, name ∈ more.config.heavy
  missing : less.supplementary.isPresent = false → more.supplementary.isPresent = false

/-- Two contexts give the rules the same to find: they list every name equally often,
know the same names, and both or neither have a supplementary manifest. -/
structure Matches (left right : Context) : Prop where
  listed : ∀ name, left.primary.names.count name = right.primary.names.count name
  stdlib : ∀ name, name ∈ left.config.stdlib ↔ name ∈ right.config.stdlib
  heavy : ∀ name, name ∈ left.config.heavy ↔ name ∈ right.config.heavy
  present : left.supplementary.isPresent = right.supplementary.isPresent

/-- Matching contexts are within each other; this is one direction. -/
theorem Matches.within {left right : Context} (same : left.Matches right) : left.Within right where
  listed name := Nat.le_of_eq (same.listed name)
  stdlib name := (same.stdlib name).1
  heavy name := (same.heavy name).1
  missing absent := same.present ▸ absent

/-- Matching is mutual. -/
theorem Matches.symm {left right : Context} (same : left.Matches right) : right.Matches left where
  listed name := (same.listed name).symm
  stdlib name := (same.stdlib name).symm
  heavy name := (same.heavy name).symm
  present := same.present.symm

/-- A context with less to find has no more findings of any sort. -/
theorem Within.count_found_le {less more : Context} (within : less.Within more)
    (finding : Kind × String) :
    less.report.found.count finding ≤ more.report.found.count finding := by
  obtain ⟨kind, package⟩ := finding
  rw [report, report, Audit.count_found_builtinReport, Audit.count_found_builtinReport]
  exact Audit.timesReported_le within.stdlib within.heavy (within.listed package) kind

/-- A context with less to find has no more suggestions. -/
theorem Within.length_suggestions_le {less more : Context} (within : less.Within more) :
    less.report.suggestions.length ≤ more.report.suggestions.length := by
  simp only [report, Audit.builtinReport, Audit.suggestions_report]
  cases absence : less.supplementary.isPresent with
  | true => simp
  | false =>
    rw [within.missing absence]
    simp

/-- A context with less to find has no greater exit code. -/
theorem Within.exitCode_le {less more : Context} (within : less.Within more) :
    less.report.exitCode ≤ more.report.exitCode :=
  Report.exitCode_le within.count_found_le within.length_suggestions_le

/-- Reports grow with what is listed, with the known names and with the absence of a
supplementary manifest, and do not depend on the order of the entries. A context within
another one has no more findings of any kind of any package, no more suggestions and no
greater exit code; matching contexts have the same findings up to their order and the
same exit code. Leaving names out makes a context that is within the old one, and
changing their order makes one that matches it. -/
theorem report_monotone :
    (∀ less more : Context, less.Within more →
      (∀ kind package, less.report.found.count (kind, package) ≤
          more.report.found.count (kind, package)) ∧
        less.report.suggestions.length ≤ more.report.suggestions.length ∧
        less.report.exitCode ≤ more.report.exitCode) ∧
    (∀ left right : Context, left.Matches right →
      left.report.found.Perm right.report.found ∧
        left.report.exitCode = right.report.exitCode) ∧
    (∀ (part whole supplementary : Manifest) (config : Config),
      part.names.Sublist whole.names →
        Within ⟨part, supplementary, config⟩ ⟨whole, supplementary, config⟩) ∧
    (∀ (left right supplementary : Manifest) (config : Config),
      left.names.Perm right.names →
        Matches ⟨left, supplementary, config⟩ ⟨right, supplementary, config⟩) := by
  refine ⟨?_, ?_, ?_, ?_⟩
  · intro less more within
    exact ⟨fun kind package => within.count_found_le (kind, package),
      within.length_suggestions_le, within.exitCode_le⟩
  · intro left right same
    have forth : left.Within right := same.within
    have back : right.Within left := same.symm.within
    constructor
    · apply List.perm_iff_count.2
      intro finding
      exact Nat.le_antisymm (forth.count_found_le finding) (back.count_found_le finding)
    · exact Nat.le_antisymm forth.exitCode_le back.exitCode_le
  · intro part whole supplementary config chosen
    exact ⟨fun name => chosen.count_le name, fun _ known => known, fun _ known => known, id⟩
  · intro left right supplementary config reordered
    exact ⟨fun name => reordered.count_eq name, fun _ => Iff.rfl, fun _ => Iff.rfl, rfl⟩

/-- Two names, one of them listed again in another order below a name that only the
second configuration knows, and no supplementary manifest any more: the report grows. The
same entries from the last to the first give the same findings. -/
theorem report_monotone_torch :
    let less : Context := ⟨.parse "a.txt" "torch>=2\r\n# x\rasyncio", .parse "s.txt" "", .standard⟩
    let more : Context := ⟨.parse "b.txt" "asyncio\nflask\ntorch\n\ntorch", .missing "s.txt",
      { Config.standard with stdlib := Config.standard.stdlib.insert "flask" }⟩
    let reversed : Context := ⟨.parse "b.txt" "torch torch\u2028torch\x1cflask<1\nasyncio",
      .missing "c.txt", more.config⟩
    (less.Within more ∧
      (∀ kind package, less.report.found.count (kind, package) ≤
          more.report.found.count (kind, package)) ∧
        less.report.suggestions.length ≤ more.report.suggestions.length ∧
        less.report.exitCode ≤ more.report.exitCode) ∧
    more.Matches reversed ∧ more.report.found.Perm reversed.report.found ∧
      more.report.exitCode = reversed.report.exitCode := by
  intro less more reversed
  have fewerNames : less.primary.names = ["torch", "asyncio"] := by decide
  have moreNames : more.primary.names = ["asyncio", "flask", "torch", "torch"] := by decide
  have reversedNames : reversed.primary.names = ["torch", "torch", "flask", "asyncio"] := by decide
  have fewer : less.primary.names.Subperm more.primary.names := by
    rw [fewerNames, moreNames]
    decide
  have reordered : more.primary.names.Perm reversed.primary.names := by
    rw [moreNames, reversedNames]
    exact (List.reverse_perm _).symm
  have within : less.Within more :=
    { listed := fun name => fewer.count_le name
      stdlib := fun _ known => NameSet.mem_insert.2 (.inr known)
      heavy := fun _ known => known
      missing := fun _ => rfl }
  have same : more.Matches reversed :=
    { listed := fun name => reordered.count_eq name
      stdlib := fun _ => Iff.rfl
      heavy := fun _ => Iff.rfl
      present := rfl }
  exact ⟨⟨within, report_monotone.1 less more within⟩,
    same, report_monotone.2.1 more reversed same⟩

end Context

end ManifestAudit
