import ManifestAudit.Text.Blank

/-!
# Requirement lines

A line of a manifest names at most one package. The name is the run of
characters from the first character that is not blank up to the next blank or
version constraint. A line that is blank, that is a comment, or that starts with
a constraint names none. Case and all other characters are kept as written.
-/

namespace ManifestAudit.Requirement

open Text

/-- The characters that begin a version constraint. -/
def isConstraint (c : Char) : Bool := c = '<' || c = '>' || c = '='

/-- Whether a package name stops before this character. -/
def endsName (c : Char) : Bool := isBlank c || isConstraint c

/-- The leading run of characters up to the first that ends a name. -/
def leadingName (content : List Char) : List Char := content.takeWhile fun c => !endsName c

/-- The package name that content without leading blanks starts with. A number
sign in front makes the line a comment. -/
def startingName? (content : List Char) : Option (List Char) :=
  if content.head? = some '#' ∨ leadingName content = [] then none
  else some (leadingName content)

/-- The package name on a line. -/
def nameIn? (line : List Char) : Option (List Char) := startingName? (dropBlanks line)

/-- The package name on a line given as a string. -/
def packageName? (line : String) : Option String := (nameIn? line.toList).map String.ofList

/-- A name is found exactly where the content does not start a comment and its
leading run is the name, which is not empty. -/
theorem nameIn?_eq_some_iff {line name : List Char} :
    nameIn? line = some name ↔
      (dropBlanks line).head? ≠ some '#' ∧ leadingName (dropBlanks line) = name ∧ name ≠ [] := by
  unfold nameIn? startingName?
  split
  · rename_i nameless
    refine iff_of_false (by simp) fun ⟨noComment, found, nonempty⟩ => ?_
    exact nameless.elim noComment (found ▸ nonempty)
  · rename_i named
    rw [Option.some_inj]
    exact ⟨fun found => ⟨fun comment => named (.inl comment), found,
      fun empty => named (.inr (found.trans empty))⟩, fun ⟨_, found, _⟩ => found⟩

/-- No character of a name ends a name. -/
theorem endsName_of_mem_nameIn? {line name : List Char} (named : nameIn? line = some name) :
    ∀ c ∈ name, endsName c = false := by
  obtain ⟨_, rfl, _⟩ := nameIn?_eq_some_iff.1 named
  intro c member
  simpa using List.all_eq_true.1 List.all_takeWhile c member

/-- A name is made of characters of its line. -/
theorem mem_line_of_mem_nameIn? {line name : List Char} (named : nameIn? line = some name) :
    ∀ c ∈ name, c ∈ line := by
  obtain ⟨_, rfl, _⟩ := nameIn?_eq_some_iff.1 named
  intro c member
  have inContent : c ∈ dropBlanks line := (List.takeWhile_sublist _).mem member
  exact (List.dropWhile_sublist _).mem inContent

end ManifestAudit.Requirement
