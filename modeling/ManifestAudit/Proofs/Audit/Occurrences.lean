import ManifestAudit.Proofs.Audit.Selection

/-!
# Counting occurrences

The duplicate rule can be told without the sets that it keeps: an entry is reported if its
name stands exactly once among the entries in front of it. This holds of any list of entries,
whatever the names and the line numbers in it are, so a number that repeats or goes back
decides nothing.

`secondListings` is that reading. The walk of the rule agrees with it by induction from the
end of the list, where one entry more changes no count in front of the others. How often a
name is reported is known from counts as well, so each name is reported at most once.
-/

namespace ManifestAudit.Rule

/-- How often a name is listed among the entries in front of an index. -/
def listedBefore (entries : List Entry) (index : Nat) (name : String) : Nat :=
  ((entries.take index).map Entry.name).count name

/-- The entries whose names are listed exactly once in front of them, in order. -/
def secondListings (entries : List Entry) : List Entry :=
  (entries.zipIdx.filter fun (entry, index) => listedBefore entries index entry.name = 1).map
    Prod.fst

/-- An entry at the end changes no count in front of the others or of itself. -/
theorem listedBefore_concat_of_le {entries : List Entry} {index : Nat}
    (early : index ≤ entries.length) (last : Entry) (name : String) :
    listedBefore (entries ++ [last]) index name = listedBefore entries index name := by
  rw [listedBefore, List.take_append_of_le_length early, listedBefore]

/-- In front of the end all entries count. -/
theorem listedBefore_length (entries : List Entry) (name : String) :
    listedBefore entries entries.length name = (entries.map Entry.name).count name := by
  rw [listedBefore, List.take_length]

/-- One entry more is a second listing exactly if its name was listed once; the second
listings in front of it stay. -/
theorem secondListings_concat (entries : List Entry) (last : Entry) :
    secondListings (entries ++ [last]) =
      secondListings entries ++ secondListing (entries.map Entry.name) last := by
  have inFront : ∀ numbered ∈ entries.zipIdx,
      decide (listedBefore (entries ++ [last]) numbered.2 numbered.1.name = 1) =
        decide (listedBefore entries numbered.2 numbered.1.name = 1) := by
    intro numbered member
    have early : numbered.2 ≤ entries.length := by
      have bound : numbered.2 < 0 + entries.length := List.snd_lt_add_of_mem_zipIdx member
      omega
    rw [listedBefore_concat_of_le early]
  have atEnd : listedBefore (entries ++ [last]) entries.length last.name =
      (entries.map Entry.name).count last.name := by
    rw [listedBefore_concat_of_le (Nat.le_refl _), listedBefore_length]
  rw [secondListings, List.zipIdx_append, List.filter_append, List.map_append,
    List.filter_congr inFront]
  congr 1
  simp only [List.zipIdx_singleton, Nat.zero_add, List.filter_singleton, atEnd, secondListing]
  by_cases second : (entries.map Entry.name).count last.name = 1 <;> simp [second]

/-- The walk with two sets picks the second listings. -/
theorem firstRepeats_eq_secondListings (entries : List Entry) :
    firstRepeats [] [] entries = secondListings entries := by
  induction entries using List.reverseRecOn with
  | nil => rfl
  | append_singleton above last inductionHypothesis =>
    rw [firstRepeats_nil_concat, secondListings_concat, inductionHypothesis]

/-- The duplicate rule reports the second listings. -/
theorem check_duplicatePackage (context : Context) :
    duplicatePackage.check context =
      (secondListings context.primary.entries).map
        (diagnosticAt .duplicate context.primary fun name =>
          "Package '" ++ name ++ "' is listed more than once") := by
  rw [← firstRepeats_eq_secondListings]
  rfl

/-- A name is reported once if it is listed more than once, and else not at all. -/
theorem count_packages_duplicatePackage (context : Context) (name : String) :
    ((duplicatePackage.check context).map Diagnostic.package).count name =
      if 1 < context.primary.names.count name then 1 else 0 := by
  have packages : (duplicatePackage.check context).map Diagnostic.package =
      (firstRepeats [] [] context.primary.entries).map Entry.name := by
    rw [check_duplicatePackage, List.map_map, firstRepeats_eq_secondListings]
    rfl
  rw [packages, count_firstRepeats, Manifest.names]

/-- The duplicate rule agrees with counting on every manifest. It reports, in the order of the
entries, each entry whose name occurs exactly once among those in front of it, under that
name, at the line of the entry and in the file of the manifest. So no package is reported
twice, and a name is reported exactly if it is listed at least twice. -/
theorem check_duplicatePackage_counts (context : Context) :
    let entries := context.primary.entries
    let packages := (duplicatePackage.check context).map Diagnostic.package
    duplicatePackage.check context =
        (entries.zipIdx.filter fun (entry, index) =>
          ((entries.take index).map Entry.name).count entry.name = 1).map
            (fun (entry, _) => ⟨.duplicate, entry.name,
              "Package '" ++ entry.name ++ "' is listed more than once",
              some ⟨context.primary.path, entry.line⟩⟩) ∧
      packages.Nodup ∧
      ∀ name, name ∈ packages ↔ 2 ≤ context.primary.names.count name := by
  intro entries packages
  refine ⟨?_, ?_, fun name => ?_⟩
  · rw [check_duplicatePackage, secondListings, List.map_map]
    rfl
  · refine List.nodup_iff_count_le_one.2 fun name => ?_
    rw [count_packages_duplicatePackage]
    split <;> omega
  · rw [← List.count_pos_iff, count_packages_duplicatePackage]
    split <;> omega

-- Names that repeat in turns, an empty one among them, on lines that repeat and go back.
example : secondListings [⟨"a", 7⟩, ⟨"", 7⟩, ⟨"a", 2⟩, ⟨"a", 0⟩, ⟨"", 2⟩] = [⟨"a", 2⟩, ⟨"", 2⟩] := by
  decide

end ManifestAudit.Rule
