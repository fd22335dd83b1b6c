import ManifestAudit.Manifest.Requirement
import ManifestAudit.Text.Line

/-!
# Manifests

A manifest is what a requirements text lists: its path, and an entry for every
line that names a package, in text order, with the number of the line. Lines
count from one and every line counts, whether it names a package or not. A
manifest that was not found has no entries and says so.
-/

namespace ManifestAudit

/-- A package name and the number of the line it stands on. -/
structure Entry where
  name : String
  line : Nat
deriving DecidableEq, Repr

/-- The packages that one requirements text lists. -/
structure Manifest where
  path : String
  isPresent : Bool
  entries : List Entry
deriving DecidableEq, Repr

namespace Manifest

/-- The entry of a numbered line, if the line names a package. -/
def entryOn? : List Char × Nat → Option Entry
  | (line, number) => (Requirement.nameIn? line).map fun name => ⟨String.ofList name, number⟩

/-- The entries of consecutive lines, the first of which has the given number. -/
def entriesFrom (first : Nat) (numbered : List (List Char)) : List Entry :=
  (numbered.zipIdx first).filterMap entryOn?

/-- The entries of a text. -/
def entriesOf (text : List Char) : List Entry := entriesFrom 1 (Text.lines text)

/-- The manifest that a text at a path describes. -/
def parse (path contents : String) : Manifest := ⟨path, true, entriesOf contents.toList⟩

/-- The manifest that stands for a path where nothing was found. -/
def missing (path : String) : Manifest := ⟨path, false, []⟩

/-- The manifest of no path. -/
instance : Inhabited Manifest := ⟨missing ""⟩

/-- The listed names in text order, repeats included. -/
def names (manifest : Manifest) : List String := manifest.entries.map Entry.name

/-- How many entries there are, repeats included. -/
def size (manifest : Manifest) : Nat := manifest.entries.length

/-- Whether nothing is listed, found or not. -/
def isEmpty (manifest : Manifest) : Bool := manifest.entries.isEmpty

/-- The manifest with one entry more at the end. -/
def push (manifest : Manifest) (entry : Entry) : Manifest :=
  { manifest with entries := manifest.entries ++ [entry] }

/-- The manifest without its last entry, if it has one. -/
def pop (manifest : Manifest) : Manifest := { manifest with entries := manifest.entries.dropLast }

@[simp] theorem entriesFrom_nil (first : Nat) : entriesFrom first [] = [] := rfl

/-- Each line takes one number, and gives its entry if it names a package. -/
theorem entriesFrom_cons (first : Nat) (line : List Char) (rest : List (List Char)) :
    entriesFrom first (line :: rest) =
      (entryOn? (line, first)).toList ++ entriesFrom (first + 1) rest := by
  unfold entriesFrom
  rw [List.zipIdx_cons, List.filterMap_cons]
  cases entryOn? (line, first) <;> rfl

/-- A line that names nothing gives no entry, though it takes a number. -/
theorem entriesFrom_cons_nameless {line : List Char} (nameless : Requirement.nameIn? line = none)
    (first : Nat) (rest : List (List Char)) :
    entriesFrom first (line :: rest) = entriesFrom (first + 1) rest := by
  rw [entriesFrom_cons, entryOn?, nameless]
  rfl

/-- Lines laid end to end give their entries end to end; numbering goes on where
the first part stops. -/
theorem entriesFrom_append (first : Nat) (above below : List (List Char)) :
    entriesFrom first (above ++ below) =
      entriesFrom first above ++ entriesFrom (first + above.length) below := by
  unfold entriesFrom
  rw [List.zipIdx_append, List.filterMap_append]

end Manifest

end ManifestAudit
