import ManifestAudit.Proofs.Audit.Selection
import ManifestAudit.Proofs.Report.Places

/-!
# Reports and the places of entries

Of the primary manifest the built-in rules judge the names alone, and of the
supplementary one only that it is there. Where a name stands, in which file and on
which line, is carried into the report and decides nothing: moving the entries of a
manifest moves the diagnostics of its report in the same way
(`builtinReport_relocated`). Two manifests with the same names become the same one when
all their entries are moved to one place, and so do their reports.
-/

namespace ManifestAudit

/-- The entry on another line. -/
def Entry.renumbered (renumber : Nat → Nat) (entry : Entry) : Entry :=
  { entry with line := renumber entry.line }

/-- The manifest at another path, with its entries on other lines. -/
def Manifest.relocated (path : String) (renumber : Nat → Nat) (manifest : Manifest) : Manifest :=
  { manifest with path := path, entries := manifest.entries.map (Entry.renumbered renumber) }

namespace Manifest

/-- Moving the entries of consecutive lines, if it moves each of the lines to its place among
others, gives the entries on the others. -/
theorem map_renumbered_entriesFrom {renumber : Nat → Nat} {first moved : Nat}
    {numbered : List (List Char)}
    (moves : ∀ index < numbered.length, renumber (first + index) = moved + index) :
    (entriesFrom first numbered).map (Entry.renumbered renumber) = entriesFrom moved numbered := by
  induction numbered generalizing first moved with
  | nil => rfl
  | cons line rest inductionHypothesis =>
    have here : renumber first = moved := moves 0 (Nat.zero_lt_succ _)
    have later : ∀ index < rest.length, renumber (first + 1 + index) = moved + 1 + index := by
      intro index bound
      have step := moves (index + 1) (Nat.succ_lt_succ bound)
      rwa [Nat.add_comm index, ← Nat.add_assoc, ← Nat.add_assoc] at step
    rw [entriesFrom_cons, entriesFrom_cons, List.map_append, inductionHypothesis later, entryOn?,
      entryOn?]
    cases Requirement.nameIn? line with
    | none => rfl
    | some name => simp [Entry.renumbered, here]

end Manifest

namespace Audit

/-- Moving the entries of the primary manifest moves the diagnostics of the report and
changes nothing else. -/
theorem builtinReport_relocated (path : String) (renumber : Nat → Nat) (config : Config)
    (primary supplementary : Manifest) :
    builtinReport config (primary.relocated path renumber) supplementary =
      (builtinReport config primary supplementary).relocated fun place =>
        ⟨path, renumber place.line⟩ := by
  have sameName (entry : Entry) : (entry.renumbered renumber).name = entry.name := rfl
  have moved (kind : Kind) :
      (picked config (primary.entries.map (Entry.renumbered renumber)) kind).map
          (diagnosticOf config path kind) =
        ((picked config primary.entries kind).map (diagnosticOf config primary.path kind)).map
          (Diagnostic.relocated fun place => ⟨path, renumber place.line⟩) := by
    rw [picked_map sameName, List.map_map, List.map_map]
    rfl
  rw [builtinReport_eq, builtinReport_eq, Report.relocated, Manifest.relocated, List.map_flatMap]
  simp only [moved]

/-- The built-in rules locate their diagnostics in the file of the primary manifest. -/
theorem file_of_mem_builtinReport {config : Config} {primary supplementary : Manifest}
    {diagnostic : Diagnostic}
    (found : diagnostic ∈ (builtinReport config primary supplementary).diagnostics)
    {place : Location} (located : place ∈ diagnostic.location) : place.file = primary.path := by
  rw [diagnostics_builtinReport] at found
  obtain ⟨kind, _, reported⟩ := List.mem_flatMap.1 found
  obtain ⟨entry, _, rfl⟩ := List.mem_map.1 reported
  obtain rfl : ⟨primary.path, entry.line⟩ = place := Option.some.inj located
  rfl

/-- The report on a manifest whose entries are moved within its file is the report on the
manifest with the lines of its places moved. -/
theorem builtinReport_renumbered (renumber : Nat → Nat) (config : Config)
    (primary supplementary : Manifest) :
    builtinReport config (primary.relocated primary.path renumber) supplementary =
      (builtinReport config primary supplementary).relocated fun place =>
        { place with line := renumber place.line } := by
  rw [builtinReport_relocated]
  refine Report.relocated_congr fun diagnostic found place located => ?_
  rw [file_of_mem_builtinReport found located]

/-- The report depends on nothing but the configuration, the path and the entries of the
primary manifest, and whether there is a supplementary one. -/
theorem builtinReport_congr {config : Config} {left right leftExtras rightExtras : Manifest}
    (samePath : left.path = right.path) (sameEntries : left.entries = right.entries)
    (samePresence : leftExtras.isPresent = rightExtras.isPresent) :
    builtinReport config left leftExtras = builtinReport config right rightExtras := by
  rw [builtinReport_eq, builtinReport_eq, samePath, sameEntries, samePresence]

/-- Reports on the same names are equal once all their diagnostics are moved to one
place. -/
theorem relocated_eq_of_names {config : Config} {left right leftExtras rightExtras : Manifest}
    (sameNames : left.names = right.names)
    (samePresence : leftExtras.isPresent = rightExtras.isPresent) :
    (builtinReport config left leftExtras).relocated (fun _ => ⟨"", 0⟩) =
      (builtinReport config right rightExtras).relocated fun _ => ⟨"", 0⟩ := by
  have gathered (manifest : Manifest) : (manifest.relocated "" fun _ => 0).entries =
      manifest.names.map fun name => ⟨name, 0⟩ := by
    rw [Manifest.relocated, Manifest.names, List.map_map]
    rfl
  have sameEntries : (left.relocated "" fun _ => 0).entries =
      (right.relocated "" fun _ => 0).entries := by
    rw [gathered, gathered, sameNames]
  calc (builtinReport config left leftExtras).relocated (fun _ => ⟨"", 0⟩)
      = builtinReport config (left.relocated "" fun _ => 0) leftExtras :=
        (builtinReport_relocated "" (fun _ => 0) config left leftExtras).symm
    _ = builtinReport config (right.relocated "" fun _ => 0) rightExtras :=
        builtinReport_congr rfl sameEntries samePresence
    _ = (builtinReport config right rightExtras).relocated fun _ => ⟨"", 0⟩ :=
        builtinReport_relocated "" (fun _ => 0) config right rightExtras

/-- Nothing but names shows in a report of the built-in rules. Primary manifests that
list the same names in the same order, wherever they stand, whether they were found or
not, beside supplementary manifests that are both there or both missing, whatever these
list, have reports that are the same but for places. -/
theorem builtinReport_noninterference (config : Config)
    {left right leftExtras rightExtras : Manifest} (sameNames : left.names = right.names)
    (samePresence : leftExtras.isPresent = rightExtras.isPresent) :
    (builtinReport config left leftExtras).SameButPlaces
      (builtinReport config right rightExtras) :=
  Report.sameButPlaces_of_relocated (relocated_eq_of_names sameNames samePresence)

/-- A text that was found and entries that were not, on other lines in descending order,
beside an empty and a full supplementary manifest: the names are the same, so the reports
are the same but for places. -/
theorem builtinReport_noninterference_torch :
    let left : Manifest := .parse "a.txt" "torch>=2\r\n\n# asyncio\rasyncio\ntorch"
    let right : Manifest := ⟨"b.txt", false, [⟨"torch", 9⟩, ⟨"asyncio", 7⟩, ⟨"torch", 7⟩]⟩
    let leftExtras : Manifest := .parse "s.txt" ""
    let rightExtras : Manifest := .parse "c.txt" "asyncio\nasyncio\ncirq"
    left.names = right.names ∧ leftExtras.isPresent = rightExtras.isPresent ∧
      (builtinReport .standard left leftExtras).SameButPlaces
        (builtinReport .standard right rightExtras) := by
  intro left right leftExtras rightExtras
  have sameNames : left.names = right.names := by decide
  exact ⟨sameNames, rfl, builtinReport_noninterference .standard sameNames rfl⟩

end Audit

end ManifestAudit
