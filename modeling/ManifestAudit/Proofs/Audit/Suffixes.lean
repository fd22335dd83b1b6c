import ManifestAudit.Proofs.Audit.Selection
import ManifestAudit.Proofs.Manifest.Suffixes
import Mathlib.Data.List.NodupEquivFin

/-!
# Suffixes in a report

What stands behind a name on its line reaches the report if the name is not set apart from it:
the package then goes by a longer name, which is neither the name of a heavy package nor that of
another line.
-/

namespace ManifestAudit

open Requirement (IsBare Full packageName?)

namespace Manifest

variable {path contents name : String}

/-- A text has an entry for a name exactly on the lines that name it. -/
theorem mem_entries_parse {number : Nat} :
    ⟨name, number⟩ ∈ (parse path contents).entries ↔
      nameAt? (Text.lines contents.toList) number = some name := by
  rw [parse, entriesOf, entriesFrom_eq_collect, collect, List.mem_filterMap]
  constructor
  · rintro ⟨line, _, given⟩
    obtain ⟨found, named, same⟩ := Option.bind_eq_some_iff.1 given
    obtain ⟨rfl, rfl⟩ := Entry.mk.inj (Option.some.inj same)
    exact named
  · intro named
    refine ⟨number, ?_, by rw [named, Option.bind_some]⟩
    rw [List.mem_range'_1]
    cases number with
    | zero => cases named
    | succ index =>
      obtain ⟨line, stands, _⟩ := Option.bind_eq_some_iff.1 named
      obtain ⟨inside, _⟩ := List.getElem?_eq_some_iff.1 stands
      omega

/-- A text lists a name more than once exactly if two of its lines name it. -/
theorem one_lt_count_names_parse_iff :
    1 < (parse path contents).names.count name ↔
      ∃ first second, first < second ∧
        nameAt? (Text.lines contents.toList) first = some name ∧
        nameAt? (Text.lines contents.toList) second = some name := by
  let found := (Text.lines contents.toList).map fun line => packageName? (String.ofList line)
  have counted : (parse path contents).names.count name = found.count (some name) := by
    rw [names_parse, List.count_filterMap, List.count_eq_countP, List.countP_map]
    rfl
  have named (index : Nat) : nameAt? (Text.lines contents.toList) (index + 1) = some name ↔
      found[index]? = some (some name) := by
    simp [nameAt?, found, Option.bind_eq_some_iff]
  have twice : 2 ≤ found.count (some name) ↔ List.Duplicate (some name) found := by
    rw [← List.replicate_sublist_iff, List.duplicate_iff_sublist]
    rfl
  rw [counted, Nat.lt_iff_add_one_le, twice, List.duplicate_iff_exists_distinct_get]
  constructor
  · rintro ⟨first, second, ordered, atFirst, atSecond⟩
    refine ⟨first + 1, second + 1, Nat.succ_lt_succ ordered, ?_, ?_⟩
    · rw [named, List.getElem?_eq_getElem first.2]
      exact congrArg some atFirst.symm
    · rw [named, List.getElem?_eq_getElem second.2]
      exact congrArg some atSecond.symm
  · rintro ⟨first, second, ordered, atFirst, atSecond⟩
    cases first with
    | zero => cases atFirst
    | succ first =>
      cases second with
      | zero => cases atSecond
      | succ second =>
        obtain ⟨firstInside, firstFound⟩ := List.getElem?_eq_some_iff.1 ((named first).1 atFirst)
        obtain ⟨secondInside, secondFound⟩ :=
          List.getElem?_eq_some_iff.1 ((named second).1 atSecond)
        exact ⟨⟨first, firstInside⟩, ⟨second, secondInside⟩, Nat.lt_of_succ_lt_succ ordered,
          firstFound.symm, secondFound.symm⟩

end Manifest

namespace Audit

open Manifest (nameAt?)

variable {config : Config} {path contents name : String} {supplementary : Manifest}

/-- An entry is reported as of a kind exactly if the rule of the kind picks it. -/
theorem diagnosticOf_mem_iff {primary : Manifest} {kind : Kind} {entry : Entry} :
    diagnosticOf config primary.path kind entry ∈
        (builtinReport config primary supplementary).diagnostics ↔
      entry ∈ picked config primary.entries kind := by
  rw [diagnostics_builtinReport, List.mem_flatMap]
  constructor
  · rintro ⟨other, _, reported⟩
    obtain ⟨found, member, same⟩ := List.mem_map.1 reported
    obtain ⟨sameKind, sameName, _, samePlace⟩ := Diagnostic.mk.inj same
    obtain ⟨_, sameLine⟩ := Location.mk.inj (Option.some.inj samePlace)
    obtain rfl : found = entry := by cases found; cases entry; simp_all
    exact sameKind ▸ member
  · intro member
    refine ⟨kind, ?_, List.mem_map_of_mem member⟩
    cases kind <;> decide

/-- A line of a text is reported as of a kind, under a name. -/
def Reported (config : Config) (path contents : String) (supplementary : Manifest) (kind : Kind)
    (name : String) (number : Nat) : Prop :=
  diagnosticOf config path kind ⟨name, number⟩ ∈
    (builtinReport config (.parse path contents) supplementary).diagnostics

/-- A line is reported under a name exactly if the rule of the kind picks its entry. -/
theorem reported_iff {kind : Kind} {number : Nat} :
    Reported config path contents supplementary kind name number ↔
      ⟨name, number⟩ ∈ picked config (Manifest.parse path contents).entries kind :=
  @diagnosticOf_mem_iff config supplementary (.parse path contents) kind ⟨name, number⟩

/-- A line is reported as heavy under a name exactly if it names it and the name is heavy. -/
theorem reported_heavyInMain_iff {number : Nat} :
    Reported config path contents supplementary .heavyInMain name number ↔
      nameAt? (Text.lines contents.toList) number = some name ∧ name ∈ config.heavy := by
  rw [reported_iff, picked, List.mem_filter, Manifest.mem_entries_parse, Config.isHeavy,
    NameSet.contains_eq_true]

/-- A name is reported as duplicate exactly if two lines name it. -/
theorem exists_reported_duplicate_iff :
    (∃ number, Reported config path contents supplementary .duplicate name number) ↔
      ∃ first second, first < second ∧
        nameAt? (Text.lines contents.toList) first = some name ∧
        nameAt? (Text.lines contents.toList) second = some name := by
  let primary := Manifest.parse path contents
  have isPicked : (∃ number, ⟨name, number⟩ ∈ picked config primary.entries .duplicate) ↔
      name ∈ (picked config primary.entries .duplicate).map Entry.name := by
    rw [List.mem_map]
    constructor
    · rintro ⟨number, member⟩
      exact ⟨_, member, rfl⟩
    · rintro ⟨entry, member, rfl⟩
      exact ⟨entry.line, member⟩
  have once : 0 < (if 1 < primary.names.count name then 1 else 0) ↔
      1 < primary.names.count name := by
    split <;> simp [*]
  have pickedOnce := count_picked config primary.entries .duplicate name
  rw [exists_congr fun _ => reported_iff, isPicked, ← List.count_pos_iff, pickedOnce]
  exact once.trans Manifest.one_lt_count_names_parse_iff

section Requirements

variable {lines : List (List Char)} {requirement first second : Full} {index later : Nat}

/-- A line with a requirement gives a bare name exactly if it is the name of the requirement and
is set apart. -/
theorem nameAt?_requirement (stands : lines[index]? = some requirement.line)
    (bare : IsBare name.toList) :
    nameAt? lines (index + 1) = some name ↔ requirement.name = name ∧ requirement.IsApart := by
  rw [nameAt?, stands, Option.bind_some]
  exact Full.packageName?_line_of_isBare bare

/-- A requirement of a heavy package is reported under its name exactly if the name is set
apart. -/
theorem reported_heavy_requirement_iff
    (stands : (Text.lines contents.toList)[index]? = some requirement.line)
    (heavy : requirement.name ∈ config.heavy) :
    Reported config path contents supplementary .heavyInMain requirement.name (index + 1) ↔
      requirement.IsApart := by
  rw [reported_heavyInMain_iff, nameAt?_requirement stands requirement.bare]
  constructor
  · rintro ⟨⟨_, apart⟩, _⟩
    exact apart
  · intro apart
    exact ⟨⟨rfl, apart⟩, heavy⟩

/-- Where heavy packages have bare names, a requirement whose name is not set apart is not
reported as heavy under any name. -/
theorem not_reported_heavy_of_not_isApart
    (stands : (Text.lines contents.toList)[index]? = some requirement.line)
    (bareNames : ∀ heavy ∈ config.heavy, IsBare heavy.toList) (joined : ¬ requirement.IsApart) :
    ¬ Reported config path contents supplementary .heavyInMain name (index + 1) := by
  intro reported
  obtain ⟨named, heavy⟩ := reported_heavyInMain_iff.1 reported
  exact joined ((nameAt?_requirement stands (bareNames name heavy)).1 named).2

/-- Two requirements of one package are reported as duplicates if its name is set apart in
both. -/
theorem reported_duplicate_of_isApart (ordered : index < later)
    (firstStands : (Text.lines contents.toList)[index]? = some first.line)
    (secondStands : (Text.lines contents.toList)[later]? = some second.line)
    (sameName : first.name = second.name) (firstApart : first.IsApart)
    (secondApart : second.IsApart) :
    ∃ number, Reported config path contents supplementary .duplicate first.name number := by
  apply exists_reported_duplicate_iff.2
  refine ⟨index + 1, later + 1, Nat.succ_lt_succ ordered, ?_, ?_⟩
  · exact (nameAt?_requirement firstStands first.bare).2 ⟨rfl, firstApart⟩
  · exact (nameAt?_requirement secondStands first.bare).2 ⟨sameName.symm, secondApart⟩

/-- If two lines give a name that none but two given lines may give, then both of these do. -/
theorem both_named_of_two (ordered : index < later)
    (noOther : ∀ other, other ≠ index → other ≠ later → nameAt? lines (other + 1) ≠ some name)
    (twice : ∃ above below, above < below ∧ nameAt? lines above = some name ∧
      nameAt? lines below = some name) :
    nameAt? lines (index + 1) = some name ∧ nameAt? lines (later + 1) = some name := by
  have isOne (number : Nat) (named : nameAt? lines number = some name) :
      number = index + 1 ∨ number = later + 1 := by
    cases number with
    | zero => cases named
    | succ other =>
      by_contra neither
      rw [not_or] at neither
      exact noOther other (by omega) (by omega) named
  obtain ⟨above, below, apart, aboveNamed, belowNamed⟩ := twice
  have isAbove := isOne above aboveNamed
  have isBelow := isOne below belowNamed
  obtain rfl : above = index + 1 := by omega
  obtain rfl : below = later + 1 := by omega
  exact ⟨aboveNamed, belowNamed⟩

/-- If a package that no line but those of two requirements names is reported as duplicate, its
name is set apart in both. -/
theorem isApart_of_reported_duplicate (ordered : index < later)
    (firstStands : (Text.lines contents.toList)[index]? = some first.line)
    (secondStands : (Text.lines contents.toList)[later]? = some second.line)
    (noOther : ∀ other, other ≠ index → other ≠ later →
      nameAt? (Text.lines contents.toList) (other + 1) ≠ some first.name)
    (reported : ∃ number,
      Reported config path contents supplementary .duplicate first.name number) :
    first.IsApart ∧ second.IsApart := by
  obtain ⟨atFirst, atSecond⟩ :=
    both_named_of_two ordered noOther (exists_reported_duplicate_iff.1 reported)
  exact ⟨((nameAt?_requirement firstStands first.bare).1 atFirst).2,
    ((nameAt?_requirement secondStands first.bare).1 atSecond).2⟩

end Requirements

/-- What stands behind a name is discarded exactly if the name is set apart from it. Then the
line is read as the name, it is reported if the package is heavy, and two such lines of one
package are reported as duplicates. Otherwise a longer name is found, which is no bare one; the
line is not reported as that of the heavy package, nor as that of any other if heavy packages
have bare names; and of a package with two lines, one of which is of this sort, no duplicate is
reported. -/
theorem suffix_discarded_iff_apart (config : Config) (path contents : String)
    (supplementary : Manifest) :
    let lines := Text.lines contents.toList
    let reported := Reported config path contents supplementary
    (∀ requirement : Full,
      (packageName? (String.ofList requirement.line) = some requirement.name ↔
        requirement.IsApart) ∧
      (¬ requirement.IsApart → ∃ longer,
        packageName? (String.ofList requirement.line) = some longer ∧
          requirement.name.toList <+: longer.toList ∧ ¬ IsBare longer.toList)) ∧
    (∀ (requirement : Full) (index : Nat), lines[index]? = some requirement.line →
      requirement.name ∈ config.heavy →
        (reported .heavyInMain requirement.name (index + 1) ↔ requirement.IsApart) ∧
        ((∀ heavy ∈ config.heavy, IsBare heavy.toList) → ¬ requirement.IsApart →
          ∀ name, ¬ reported .heavyInMain name (index + 1))) ∧
    ∀ (first second : Full) (index later : Nat), index < later →
      lines[index]? = some first.line → lines[later]? = some second.line →
        first.name = second.name →
          (first.IsApart → second.IsApart → ∃ number, reported .duplicate first.name number) ∧
          ((∀ other, other ≠ index → other ≠ later →
              nameAt? lines (other + 1) ≠ some first.name) →
            (∃ number, reported .duplicate first.name number) →
              first.IsApart ∧ second.IsApart) := by
  intro lines reported
  refine ⟨fun requirement => ⟨?_, ?_⟩, ?_, ?_⟩
  · exact requirement.packageName?_line_eq_some_iff
  · exact Full.exists_longer_of_not_isApart
  · intro requirement index stands heavy
    refine ⟨reported_heavy_requirement_iff stands heavy, ?_⟩
    intro bareNames joined name
    exact not_reported_heavy_of_not_isApart stands bareNames joined
  · intro first second index later ordered firstStands secondStands sameName
    constructor
    · exact reported_duplicate_of_isApart ordered firstStands secondStands sameName
    · exact isApart_of_reported_duplicate ordered firstStands secondStands

/-- A heavy package on three lines, set apart by a gap, by a mark and not at all: the third line
is not reported as heavy, and the first two make a duplicate. -/
theorem suffix_discarded_iff_apart_torch :
    let spaced := Full.ofPart "torch" (by decide) 1 (.constraint .compatible ['2'])
    let marked := Full.ofPart "torch" (by decide) 0 (.constraint .atLeast ['2'])
    let joined := Full.ofPart "torch" (by decide) 0 (.extras ['c', 'u', 'd', 'a'])
    let contents := "torch ~=2\ntorch>=2\ntorch[cuda]"
    let reported := Reported .standard "r.txt" contents (.missing "s.txt")
    Text.lines contents.toList = [spaced.line, marked.line, joined.line] ∧
      packageName? (String.ofList spaced.line) = some "torch" ∧
      packageName? (String.ofList joined.line) ≠ some "torch" ∧
      reported .heavyInMain "torch" 1 ∧ (∀ name, ¬ reported .heavyInMain name 3) ∧
      ∃ number, reported .duplicate "torch" number := by
  intro spaced marked joined contents reported
  obtain ⟨read, heavy, duplicate⟩ :=
    suffix_discarded_iff_apart .standard "r.txt" contents (.missing "s.txt")
  have spacedHeavy := heavy spaced 0 (by decide) (by decide)
  have joinedHeavy := heavy joined 2 (by decide) (by decide)
  have bothListed := duplicate spaced marked 0 1 (by decide) (by decide) (by decide) rfl
  have bareNames : ∀ name ∈ Config.standard.heavy, IsBare name.toList := by
    show ∀ name ∈ Config.standard.heavy.names, IsBare name.toList
    decide
  exact ⟨by decide, (read spaced).1.2 (by decide), mt (read joined).1.1 (by decide),
    spacedHeavy.1.2 (by decide), joinedHeavy.2 bareNames (by decide),
    bothListed.1 (by decide) (by decide)⟩

/-- A compatible release and extras, each joined to the name of a heavy package: neither line is
read as the name, and nothing is reported. -/
theorem joined_suffixes_kept :
    let release := Full.ofPart "torch" (by decide) 0 (.constraint .compatible ['2'])
    let extras := Full.ofPart "torch" (by decide) 0 (.extras ['c', 'u', 'd', 'a'])
    packageName? (String.ofList release.line) = some "torch~" ∧
      packageName? (String.ofList extras.line) = some "torch[cuda]" ∧
      Text.lines "torch~=2\ntorch[cuda]".toList = [release.line, extras.line] ∧
      "torch" ∈ Config.standard.heavy ∧
      (builtinReport .standard (.parse "r.txt" "torch~=2\ntorch[cuda]")
        (.missing "s.txt")).diagnostics = [] := by
  decide

end Audit

end ManifestAudit
