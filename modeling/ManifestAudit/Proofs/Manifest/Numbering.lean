import ManifestAudit.Manifest.Basic
import Mathlib.Data.List.Basic
import Mathlib.Data.List.Induction

/-!
# Names by line number

The lines of a text are numbered from one, and each of them names at most one
package. Looking a name up by the number of its line is independent of how the
entries of a manifest are made; the two agree on every list of lines, also where
lines that name nothing stand between others.

A line put at the end gets the next number and leaves the earlier ones as they
are, so the agreement follows by induction from the end of the list.
-/

namespace ManifestAudit.Manifest

/-- The package name on the line with a number; there is no line zero. -/
def nameAt? (lines : List (List Char)) : Nat → Option String
  | 0 => none
  | index + 1 => lines[index]?.bind fun line => Requirement.packageName? (String.ofList line)

/-- How many lines above the one with a number name a package. -/
def listingsAbove (lines : List (List Char)) (number : Nat) (name : String) : Nat :=
  (List.range number).countP fun earlier => nameAt? lines earlier = some name

/-- What a function gives for the numbers of all lines and the names on them, in
the order of the lines. -/
def collect {α : Type} (lines : List (List Char)) (give : Nat → String → Option α) : List α :=
  (List.range' 1 lines.length).filterMap fun number => (nameAt? lines number).bind (give number)

/-- A line put at the end changes no earlier line. -/
theorem nameAt?_concat_of_le {lines : List (List Char)} {number : Nat}
    (early : number ≤ lines.length) (last : List Char) :
    nameAt? (lines ++ [last]) number = nameAt? lines number := by
  cases number with
  | zero => rfl
  | succ index =>
    have inside : index < lines.length := early
    simp only [nameAt?, List.getElem?_append_left inside]

/-- A line put at the end has the next number. -/
theorem nameAt?_concat_self (lines : List (List Char)) (last : List Char) :
    nameAt? (lines ++ [last]) (lines.length + 1) =
      Requirement.packageName? (String.ofList last) := by
  simp [nameAt?]

/-- A line put at the end changes no count above any line. -/
theorem listingsAbove_concat_of_le {lines : List (List Char)} {number : Nat}
    (early : number ≤ lines.length + 1) (last : List Char) (name : String) :
    listingsAbove (lines ++ [last]) number name = listingsAbove lines number name := by
  refine List.countP_congr fun earlier member => ?_
  have below : earlier < number := List.mem_range.1 member
  rw [nameAt?_concat_of_le (by omega)]

/-- Collecting over one line more adds what that line gives, provided that the
earlier lines give the same as before. -/
theorem collect_concat {α : Type} {lines : List (List Char)} {last : List Char}
    {give giveBefore : Nat → String → Option α}
    (unchanged : ∀ number ≤ lines.length, give number = giveBefore number) :
    collect (lines ++ [last]) give = collect lines giveBefore ++
      ((Requirement.packageName? (String.ofList last)).bind (give (lines.length + 1))).toList := by
  have earlier : ∀ number ∈ List.range' 1 lines.length,
      (nameAt? (lines ++ [last]) number).bind (give number) =
        (nameAt? lines number).bind (giveBefore number) := by
    intro number member
    have early : number ≤ lines.length := by
      have bounds := List.mem_range'_1.1 member
      omega
    rw [nameAt?_concat_of_le early, unchanged number early]
  unfold collect
  rw [List.length_append, List.length_singleton, List.range'_concat, List.filterMap_append,
    List.filterMap_congr earlier, Nat.one_mul, Nat.add_comm 1, List.filterMap_cons,
    List.filterMap_nil, nameAt?_concat_self]
  cases (Requirement.packageName? (String.ofList last)).bind (give (lines.length + 1)) <;> rfl

/-- The entry of a line is its name with its number. -/
theorem entryOn?_eq (line : List Char) (number : Nat) :
    entryOn? (line, number) =
      (Requirement.packageName? (String.ofList line)).map fun name => ⟨name, number⟩ := by
  simp [entryOn?, Requirement.packageName?, Function.comp_def]

/-- The names of a parsed text are those on its lines, in the order of the lines. -/
theorem names_parse (path contents : String) :
    (parse path contents).names =
      (Text.lines contents.toList).filterMap fun line =>
        Requirement.packageName? (String.ofList line) := by
  have numbered : ∀ (lines : List (List Char)) (first : Nat),
      (entriesFrom first lines).map Entry.name =
        lines.filterMap fun line => Requirement.packageName? (String.ofList line) := by
    intro lines
    induction lines with
    | nil => intro first; rfl
    | cons line rest inductionHypothesis =>
      intro first
      rw [entriesFrom_cons, List.map_append, inductionHypothesis, entryOn?_eq, List.filterMap_cons]
      cases Requirement.packageName? (String.ofList line) <;> rfl
  exact numbered (Text.lines contents.toList) 1

/-- A line put at the end gives the last entry, if it names a package. -/
theorem entriesFrom_concat (lines : List (List Char)) (last : List Char) :
    entriesFrom 1 (lines ++ [last]) = entriesFrom 1 lines ++
      ((Requirement.packageName? (String.ofList last)).map
        fun name => Entry.mk name (lines.length + 1)).toList := by
  rw [entriesFrom_append, entriesFrom_cons, entriesFrom_nil, List.append_nil, entryOn?_eq,
    Nat.add_comm 1]

/-- The entries of a list of lines are the names on them with their numbers. -/
theorem entriesFrom_eq_collect (lines : List (List Char)) :
    entriesFrom 1 lines = collect lines fun number name => some ⟨name, number⟩ := by
  induction lines using List.reverseRecOn with
  | nil => rfl
  | append_singleton lines last inductionHypothesis =>
    rw [entriesFrom_concat, collect_concat fun _ _ => rfl, inductionHypothesis,
      Option.map_eq_bind]
    rfl

/-- The lines that name a package are as many as the entries with that name. -/
theorem count_names_entriesFrom (lines : List (List Char)) (name : String) :
    ((entriesFrom 1 lines).map Entry.name).count name =
      listingsAbove lines (lines.length + 1) name := by
  induction lines using List.reverseRecOn with
  | nil => rfl
  | append_singleton lines last inductionHypothesis =>
    have step : listingsAbove (lines ++ [last]) ((lines ++ [last]).length + 1) name =
        listingsAbove lines (lines.length + 1) name +
          if Requirement.packageName? (String.ofList last) = some name then 1 else 0 := by
      have earlier : listingsAbove (lines ++ [last]) (lines.length + 1) name =
          listingsAbove lines (lines.length + 1) name :=
        listingsAbove_concat_of_le (Nat.le_refl _) last name
      rw [← earlier, ← nameAt?_concat_self lines, List.length_append, List.length_singleton,
        listingsAbove, List.range_succ, List.countP_append, List.countP_singleton]
      simp only [listingsAbove, decide_eq_true_eq]
    rw [step, ← inductionHypothesis, entriesFrom_concat, List.map_append, List.count_append]
    cases Requirement.packageName? (String.ofList last) with
    | none => simp
    | some found => simp [List.count_singleton]

end ManifestAudit.Manifest
