import ManifestAudit.Proofs.Audit.Selection

/-!
# Reported packages

The built-in rules speak only of packages that the primary manifest lists, and a
listed name is a piece of one line of the text. So no report on a text names a
package that holds one of the ten break characters, whatever else the text holds.
Blanks alone would not give this: the separators U+001C to U+001E are no blanks,
and only because they end lines are they never part of a name.
-/

namespace ManifestAudit

/-- The built-in rules report packages that the primary manifest lists. -/
theorem Audit.package_mem_names {config : Config} {primary supplementary : Manifest}
    {diagnostic : Diagnostic}
    (found : diagnostic ∈ (builtinReport config primary supplementary).diagnostics) :
    diagnostic.package ∈ primary.names := by
  rw [diagnostics_builtinReport] at found
  obtain ⟨kind, _, reported⟩ := List.mem_flatMap.1 found
  obtain ⟨entry, member, rfl⟩ := List.mem_map.1 reported
  have listed : entry ∈ primary.entries := (picked_sublist config primary.entries kind).mem member
  exact List.mem_map.2 ⟨entry, listed, rfl⟩

/-- A name that a text lists stands on one of its lines. -/
theorem Manifest.exists_line_of_mem_names {path contents name : String}
    (listed : name ∈ (parse path contents).names) :
    ∃ line ∈ Text.lines contents.toList, Requirement.nameIn? line = some name.toList := by
  rw [names_parse] at listed
  obtain ⟨line, member, named⟩ := List.mem_filterMap.1 listed
  rw [Requirement.packageName?, String.toList_ofList] at named
  obtain ⟨characters, found, rfl⟩ := Option.map_eq_some_iff.1 named
  exact ⟨line, member, by rw [found, String.toList_ofList]⟩

/-- A name that a text lists holds no break. -/
theorem Manifest.isBreak_of_mem_names {path contents name : String}
    (listed : name ∈ (parse path contents).names) :
    ∀ c ∈ name.toList, Text.isBreak c = false := by
  obtain ⟨line, member, named⟩ := exists_line_of_mem_names listed
  intro c inName
  exact Text.isBreak_of_mem_lines member c (Requirement.mem_line_of_mem_nameIn? named c inName)

/-- A package reported on a text holds no break. -/
theorem Audit.isBreak_of_mem_package {config : Config} {path contents : String}
    {supplementary : Manifest} {diagnostic : Diagnostic}
    (found : diagnostic ∈ (builtinReport config (.parse path contents) supplementary).diagnostics) :
    ∀ c ∈ diagnostic.package.toList, Text.isBreak c = false :=
  Manifest.isBreak_of_mem_names (package_mem_names found)

end ManifestAudit
