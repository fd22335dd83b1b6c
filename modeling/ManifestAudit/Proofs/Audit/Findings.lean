import ManifestAudit.Audit.Engine
import ManifestAudit.Proofs.Audit.Repeats
import ManifestAudit.Proofs.Manifest.Numbering

/-!
# Findings by line number

What the built-in rules find in a text can be read off its numbered lines alone:
a repeated name at its second line, and a known name at each of its lines, kind
after kind and each kind in the order of the lines. Entries, the two lists of the
duplicate rule and the filters of the others do not appear in that reading; the
supplementary manifest does not either.
-/

namespace ManifestAudit.Audit

open Manifest

/-- What a finding of a kind says about a package. -/
def sentence (config : Config) (name : String) : Kind → String
  | .duplicate => "Package '" ++ name ++ "' is listed more than once"
  | .stdlibAsDependency =>
    "'" ++ name ++ "' is part of the standard library and should not be a dependency"
  | .heavyInMain =>
    "'" ++ name ++ "' is a heavy package; move it to '" ++ config.supplementaryName ++ "'"

/-- One finding of a kind for each line whose number and name pass a test, at that
line, in the order of the lines. -/
def findingsOn (config : Config) (path : String) (lines : List (List Char)) (kind : Kind)
    (test : Nat → String → Bool) : List Diagnostic :=
  collect lines fun number name =>
    if test number name then some ⟨kind, name, sentence config name kind, some ⟨path, number⟩⟩
    else none

/-- Changing what each line gives changes the collection item by item. -/
theorem map_collect {α β : Type} (change : α → β) (lines : List (List Char))
    (give : Nat → String → Option α) :
    (collect lines give).map change =
      collect lines fun number name => (give number name).map change := by
  simp only [collect, List.map_filterMap, Option.map_bind, Function.comp_def]

/-- One diagnostic for each entry of the lines that pass a test is one finding for each of
these lines. -/
theorem map_diagnosticAt_collect (config : Config) (manifest : Manifest)
    (lines : List (List Char)) (kind : Kind) (test : Nat → String → Bool) :
    (collect lines fun number name =>
        if test number name then some (Entry.mk name number) else none).map
          (Rule.diagnosticAt kind manifest fun name => sentence config name kind) =
      findingsOn config manifest.path lines kind test := by
  rw [map_collect, findingsOn]
  congr 1
  funext number name
  split <;> rfl

/-- Entries with a test on their names are the lines whose names pass it. -/
theorem filter_entriesFrom (test : String → Bool) (lines : List (List Char)) :
    (entriesFrom 1 lines).filter (fun entry => test entry.name) =
      collect lines fun number name => if test name then some ⟨name, number⟩ else none := by
  rw [entriesFrom_eq_collect, collect, collect, List.filter_filterMap]
  refine List.filterMap_congr fun number _ => ?_
  cases nameAt? lines number with
  | none => rfl
  | some name => simp [Option.filter]

/-- The duplicate rule reports the lines above which their name stands once. A line
that names nothing adds nothing; the last line that names a package is judged by
the count of that name above it. -/
theorem firstRepeats_entriesFrom (lines : List (List Char)) :
    Rule.firstRepeats [] [] (entriesFrom 1 lines) =
      collect lines fun number name =>
        if listingsAbove lines number name = 1 then some ⟨name, number⟩ else none := by
  induction lines using List.reverseRecOn with
  | nil => rfl
  | append_singleton lines last inductionHypothesis =>
    have unchanged : ∀ number ≤ lines.length,
        (fun name => if listingsAbove (lines ++ [last]) number name = 1
          then some (Entry.mk name number) else none) =
        fun name => if listingsAbove lines number name = 1
          then some (Entry.mk name number) else none := by
      intro number early
      funext name
      rw [listingsAbove_concat_of_le (by omega)]
    rw [entriesFrom_concat, collect_concat unchanged, ← inductionHypothesis]
    cases Requirement.packageName? (String.ofList last) with
    | none => simp
    | some name =>
      have counted : ((entriesFrom 1 lines).map Entry.name).count name =
          listingsAbove (lines ++ [last]) (lines.length + 1) name := by
        rw [count_names_entriesFrom, listingsAbove_concat_of_le (Nat.le_refl _)]
      simp only [Option.map_some, Option.toList_some, Option.bind_some,
        Rule.firstRepeats_nil_concat, Rule.secondListing, counted]
      split <;> rfl

/-- A rule that tests names alone finds its names line by line. -/
theorem reportEach_parse (config : Config) (path contents : String) (kind : Kind)
    (test : String → Bool) :
    Rule.reportEach kind (Manifest.parse path contents) test
        (fun name => sentence config name kind) =
      findingsOn config path (Text.lines contents.toList) kind fun _ name => test name := by
  rw [Rule.reportEach, Manifest.parse, entriesOf, filter_entriesFrom]
  exact map_diagnosticAt_collect config (.parse path contents) (Text.lines contents.toList) kind
    fun _ name => test name

/-- The duplicate rule finds the second line of each repeated name. -/
theorem check_duplicatePackage_parse (config : Config) (path contents : String)
    (supplementary : Manifest) :
    Rule.duplicatePackage.check ⟨Manifest.parse path contents, supplementary, config⟩ =
      findingsOn config path (Text.lines contents.toList) .duplicate fun number name =>
        listingsAbove (Text.lines contents.toList) number name = 1 := by
  have walked : Rule.firstRepeats [] [] (Manifest.parse path contents).entries = _ :=
    firstRepeats_entriesFrom (Text.lines contents.toList)
  have found := map_diagnosticAt_collect config (.parse path contents)
    (Text.lines contents.toList) .duplicate fun number name =>
      listingsAbove (Text.lines contents.toList) number name = 1
  simp only [decide_eq_true_eq] at found
  simp only [Rule.duplicatePackage, walked]
  exact found

/-- The diagnostics of the built-in rules on a text are, in this order: one for
each line whose name stands on exactly one line above, one for each line with a
name of the standard library, and one for each line with a heavy package. Within
each kind they follow the lines, and each says its name and its line. -/
theorem diagnostics_builtinReport_parse (config : Config) (path contents : String)
    (supplementary : Manifest) :
    (builtinReport config (Manifest.parse path contents) supplementary).diagnostics =
      findingsOn config path (Text.lines contents.toList) .duplicate
          (fun number name => listingsAbove (Text.lines contents.toList) number name = 1) ++
        findingsOn config path (Text.lines contents.toList) .stdlibAsDependency
          (fun _ name => config.stdlib.contains name) ++
        findingsOn config path (Text.lines contents.toList) .heavyInMain
          (fun _ name => config.heavy.contains name) := by
  have stdlib : Rule.stdlibAsDependency.check
      ⟨Manifest.parse path contents, supplementary, config⟩ = _ :=
    reportEach_parse config path contents .stdlibAsDependency config.isStdlib
  have heavy : Rule.heavyInMain.check
      ⟨Manifest.parse path contents, supplementary, config⟩ = _ :=
    reportEach_parse config path contents .heavyInMain config.isHeavy
  rw [builtinReport, diagnostics_report, Registry.rules_builtin, Rule.builtins]
  simp only [List.flatMap_cons, List.flatMap_nil, List.append_nil, check_duplicatePackage_parse,
    stdlib, heavy, List.append_assoc]
  rfl

-- Lines that name nothing are numbered too, and CR LF ends one line.
example :
    ((builtinReport .standard
        (Manifest.parse "r.txt" "torch\r\n\n# a\rasyncio\ntorch>=2\u2028torch")
        (.missing "s.txt")).diagnostics.map fun diagnostic =>
          (diagnostic.kind, diagnostic.package, diagnostic.location.map Location.line)) =
      [(.duplicate, "torch", some 5), (.stdlibAsDependency, "asyncio", some 4),
       (.heavyInMain, "torch", some 1), (.heavyInMain, "torch", some 5),
       (.heavyInMain, "torch", some 6)] := by
  decide

end ManifestAudit.Audit
