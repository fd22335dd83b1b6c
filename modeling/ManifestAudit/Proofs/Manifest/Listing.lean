import ManifestAudit.Proofs.Audit.Packages
import ManifestAudit.Proofs.Audit.Places
import ManifestAudit.Proofs.Manifest.LineGrammar
import ManifestAudit.Proofs.Text.Ending

/-!
# Manifests as lists of names

A text can say no more than a list of names: each name that it lists has a certain form,
`Requirement.IsName`, and every list of names of this form is listed by some text. Such a
text gives each name a line of its own and ends the line in any of the eleven ways.
Nothing in a name is cut off, trimmed or taken for a comment there, and no line is split
or joined with the next one.

So a manifest may be written again as its bare names. What is lost are constraints,
comments, empty lines and the spelling of line ends, and none of them shows in a report
for people.
-/

namespace ManifestAudit

namespace Requirement

open Text

/-- What a package name in a manifest looks like. -/
structure IsName (name : String) : Prop where
  nonempty : name ≠ ""
  unblank : ∀ c ∈ name.toList, isBlank c = false
  unbroken : ∀ c ∈ name.toList, isBreak c = false
  unconstrained : ∀ c ∈ name.toList, c ≠ '<' ∧ c ≠ '>' ∧ c ≠ '='
  noComment : name.toList.head? ≠ some '#'

/-- The characters of a name are not empty. -/
theorem IsName.toList_ne_nil {name : String} (isName : IsName name) : name.toList ≠ [] :=
  fun empty => isName.nonempty (String.toList_eq_nil_iff.1 empty)

/-- A line that is a name alone is written as this name with nothing around it. -/
theorem IsName.written {name : String} (isName : IsName name) :
    Written name.toList [] name.toList [] where
  whole := by rw [List.nil_append, List.append_nil]
  indented := fun _ none => absurd none List.not_mem_nil
  nonempty := isName.toList_ne_nil
  plain := by
    intro c member
    refine ⟨isBlank_eq_false_iff.1 (isName.unblank c member), ?_⟩
    simpa [constraintMarks, and_assoc] using isName.unconstrained c member
  noComment := isName.noComment
  stopped := fun _ none => by cases none

end Requirement

namespace Manifest

open Audit Requirement Text

/-- Every name that a text lists looks like a name. That it holds no break is owed to the
cutting of lines, all else to the reading of one line. -/
theorem isName_of_mem_names {path contents name : String}
    (listed : name ∈ (parse path contents).names) : IsName name := by
  obtain ⟨line, _, named⟩ := exists_line_of_mem_names listed
  have written := Written.of_nameIn? named
  constructor
  · rintro rfl
    exact written.nonempty rfl
  · intro c member
    exact isBlank_eq_false_iff.2 (written.plain c member).1
  · intro c member
    exact isBreak_of_mem_names listed c member
  · intro c member
    have unmarked : c ∉ constraintMarks := (written.plain c member).2
    simpa [constraintMarks, and_assoc] using unmarked
  · exact written.noComment

/-- The text that gives each name a line of its own, with the ending that stands beside
it. -/
def listing (lines : List (String × List Char)) : String :=
  String.ofList (lines.flatMap fun line => line.1.toList ++ line.2)

/-- Whether each line of a listing is a name with something that can end a line. -/
def IsListing (lines : List (String × List Char)) : Prop :=
  ∀ line ∈ lines, IsName line.1 ∧ line.2 ∈ endings

/-- A listing does not start with a line feed, since it starts with a name. -/
theorem IsListing.head?_ne {lines : List (String × List Char)} (isListing : IsListing lines) :
    (lines.flatMap fun line => line.1.toList ++ line.2).head? ≠ some '\n' := by
  cases lines with
  | nil => simp
  | cons line rest =>
    have isName : IsName line.1 := (isListing line List.mem_cons_self).1
    cases characters : line.1.toList with
    | nil => exact absurd characters isName.toList_ne_nil
    | cons first others =>
      have unbroken : isBreak first = false :=
        isName.unbroken first (characters ▸ List.mem_cons_self)
      have noLineFeed : first ≠ '\n' := by
        rintro rfl
        exact absurd unbroken (by decide)
      simpa [List.flatMap_cons, characters] using noLineFeed

/-- A listing is cut into its lines: each name is one line with its own ending. -/
theorem IsListing.segments_eq {lines : List (String × List Char)}
    (isListing : IsListing lines) :
    segments (lines.flatMap fun line => line.1.toList ++ line.2) =
      lines.map fun line => ⟨line.1.toList, line.2⟩ := by
  induction lines with
  | nil => rfl
  | cons line rest inductionHypothesis =>
    obtain ⟨⟨isName, recognised⟩, later⟩ := List.forall_mem_cons.1 isListing
    have restListing : IsListing rest := later
    rw [List.flatMap_cons, List.append_assoc,
      segments_line_append isName.unbroken recognised fun _ => restListing.head?_ne,
      inductionHypothesis restListing, List.map_cons]

/-- Consecutive lines that are names alone give these names with their numbers. -/
theorem entriesFrom_names (first : Nat) {lines : List (String × List Char)}
    (isListing : IsListing lines) :
    entriesFrom first (lines.map fun line => line.1.toList) =
      (lines.zipIdx first).map fun (line, number) => ⟨line.1, number⟩ := by
  induction lines generalizing first with
  | nil => rfl
  | cons line rest inductionHypothesis =>
    obtain ⟨⟨isName, _⟩, later⟩ := List.forall_mem_cons.1 isListing
    have entry : entryOn? (line.1.toList, first) = some ⟨line.1, first⟩ := by
      rw [entryOn?, isName.written.nameIn?_eq, Option.map_some, String.ofList_toList]
    rw [List.map_cons, entriesFrom_cons, entry, inductionHypothesis (first + 1) later,
      List.zipIdx_cons, List.map_cons]
    rfl

/-- Parsing a listing gives its names, numbered from one. -/
theorem IsListing.entries_parse {lines : List (String × List Char)}
    (isListing : IsListing lines) (path : String) :
    (parse path (listing lines)).entries =
      (lines.zipIdx 1).map fun (line, number) => ⟨line.1, number⟩ := by
  have cut : Text.lines (listing lines).toList = lines.map fun line => line.1.toList := by
    rw [Text.lines, listing, String.toList_ofList, isListing.segments_eq, List.map_map]
    rfl
  rw [parse, entriesOf, cut, entriesFrom_names 1 isListing]

/-- Parsing a listing gives its names. -/
theorem IsListing.names_parse {lines : List (String × List Char)} (isListing : IsListing lines)
    (path : String) : (parse path (listing lines)).names = lines.map Prod.fst := by
  rw [names, isListing.entries_parse, List.map_map]
  calc (lines.zipIdx 1).map (Entry.name ∘ fun (line, number) => ⟨line.1, number⟩)
      = ((lines.zipIdx 1).map Prod.fst).map Prod.fst := by
        rw [List.map_map]
        rfl
    _ = lines.map Prod.fst := by rw [List.zipIdx_map_fst]

/-- Parsing is a retraction onto lists of names. Each name that a text lists looks like a
name. Conversely, names that look so, each on a line of its own with any ending, are
listed again in their order on the lines one, two and so on. So a text may be written
again as its bare names, whatever endings are chosen: it lists the same names, and the
report of the built-in rules tells people the same and has the same exit code. -/
theorem parse_retraction :
    (∀ path contents : String, ∀ name ∈ (parse path contents).names, IsName name) ∧
    (∀ (path : String) (lines : List (String × List Char)),
      (∀ line ∈ lines, IsName line.1 ∧ line.2 ∈ endings) →
        (parse path (listing lines)).entries =
          (lines.zipIdx 1).map fun (line, number) => ⟨line.1, number⟩) ∧
    (∀ (path newPath contents : String) (lines : List (String × List Char)),
      lines.map Prod.fst = (parse path contents).names → (∀ line ∈ lines, line.2 ∈ endings) →
        (parse newPath (listing lines)).names = (parse path contents).names ∧
          ∀ (config : Config) (supplementary : Manifest),
            (builtinReport config (parse newPath (listing lines)) supplementary).written .human =
                (builtinReport config (parse path contents) supplementary).written .human ∧
              (builtinReport config (parse newPath (listing lines)) supplementary).exitCode =
                (builtinReport config (parse path contents) supplementary).exitCode) := by
  refine ⟨fun path contents name listed => isName_of_mem_names listed,
    fun path lines isListing => IsListing.entries_parse isListing path, ?_⟩
  intro path newPath contents lines bare recognised
  have isListing : IsListing lines := by
    intro line member
    have listed : line.1 ∈ (parse path contents).names := bare ▸ List.mem_map.2 ⟨line, member, rfl⟩
    exact ⟨isName_of_mem_names listed, recognised line member⟩
  have sameNames : (parse newPath (listing lines)).names = (parse path contents).names := by
    rw [isListing.names_parse, bare]
  refine ⟨sameNames, fun config supplementary => ?_⟩
  have same : (builtinReport config (parse newPath (listing lines)) supplementary).SameButPlaces
      (builtinReport config (parse path contents) supplementary) :=
    Report.sameButPlaces_of_relocated (relocated_eq_of_names sameNames rfl)
  exact ⟨same.human_eq, same.exitCode_eq⟩

/-- A text with a comment, an indented name behind a separator, constraints and a repeated
name, written again as its bare names with three different endings. A number sign inside
a name and a separator that ends no line stay in it. -/
theorem parse_retraction_torch :
    let contents := "# x\n torch>=2\x1c\u2003a#\x1f <1 torch\r\n==1\rtorch"
    let lines := [("torch", ['\r']), ("a#\x1f", ['\u2028']), ("torch", ['\r', '\n'])]
    (∀ name ∈ (parse "a.txt" contents).names, IsName name) ∧
      (∀ line ∈ lines, IsName line.1 ∧ line.2 ∈ endings) ∧
      (parse "b.txt" (listing lines)).entries = [⟨"torch", 1⟩, ⟨"a#\x1f", 2⟩, ⟨"torch", 3⟩] ∧
      lines.map Prod.fst = (parse "a.txt" contents).names ∧
      (parse "b.txt" (listing lines)).names = (parse "a.txt" contents).names ∧
      ∀ (config : Config) (supplementary : Manifest),
        (builtinReport config (parse "b.txt" (listing lines)) supplementary).written .human =
            (builtinReport config (parse "a.txt" contents) supplementary).written .human ∧
          (builtinReport config (parse "b.txt" (listing lines)) supplementary).exitCode =
            (builtinReport config (parse "a.txt" contents) supplementary).exitCode := by
  intro contents lines
  have areNames : ∀ name ∈ (parse "a.txt" contents).names, IsName name :=
    parse_retraction.1 "a.txt" contents
  have bare : lines.map Prod.fst = (parse "a.txt" contents).names := by decide
  have recognised : ∀ line ∈ lines, line.2 ∈ endings := by decide
  have isListing : ∀ line ∈ lines, IsName line.1 ∧ line.2 ∈ endings := fun line member =>
    ⟨areNames line.1 (bare ▸ List.mem_map.2 ⟨line, member, rfl⟩), recognised line member⟩
  exact ⟨areNames, isListing,
    parse_retraction.2.1 "b.txt" lines isListing, bare,
    parse_retraction.2.2 "a.txt" "b.txt" contents lines bare recognised⟩

end Manifest

end ManifestAudit
