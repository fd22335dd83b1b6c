import ManifestAudit.Files.Tree

/-!
# Where paths lead

`Leads` says where the names of a path lead in a file tree, by one rule for each kind of name:
a dot stays, two dots go to the parent, and any other name goes to the node of that name in a
directory. From a file no name leads on. There is something at the end of a path if its names
lead anywhere.

Following a path finds its end exactly so. If there is none, the path breaks off in one of two
ways: names are left over at a file (`MeetsFile`), or a name is not there. The two are told
apart by different errors.
-/

namespace ManifestAudit.FileTree

variable {tree : FileTree}

/-- One name leads from a position to another. -/
inductive Step (tree : FileTree) : Position → String → Position → Prop
  | dot {position : Position} (noFile : ∀ content, tree.at? position ≠ some (.file content)) :
      Step tree position "." position
  | parent {position : Position} (noFile : ∀ content, tree.at? position ≠ some (.file content)) :
      Step tree position ".." position.dropLast
  | child {position : Position} {name : String} (noDot : name ≠ ".") (noParent : name ≠ "..")
      (inDirectory : tree.at? position = some .directory)
      (present : tree.at? (position ++ [name]) ≠ none) :
      Step tree position name (position ++ [name])

/-- Names lead from a position to another, one after the other. -/
inductive Leads (tree : FileTree) : Position → List String → Position → Prop
  | stop {position : Position} : Leads tree position [] position
  | step {position next last : Position} {name : String} {rest : List String}
      (first : Step tree position name next) (later : Leads tree next rest last) :
      Leads tree position (name :: rest) last

/-- The names lead to a file while names are left. -/
def MeetsFile (tree : FileTree) (position : Position) (names : List String) : Prop :=
  ∃ front name back reached content, names = front ++ name :: back ∧
    tree.Leads position front reached ∧ tree.at? reached = some (.file content)

/-- There is something at the end of a path, seen from a current directory. -/
def Has (tree : FileTree) (current : Position) (path : String) : Prop :=
  ∃ last, tree.Leads (origin current path) (steps path) last

/-- A file stands where the path goes on. -/
def Blocks (tree : FileTree) (current : Position) (path : String) : Prop :=
  tree.MeetsFile (origin current path) (steps path)

/-- What a path must meet to be followed at all: it has characters and none of them is NUL,
and neither the path nor a name in it is too long. -/
structure IsOrdinary (path : String) : Prop where
  nonempty : path ≠ ""
  noNul : '\x00' ∉ path.toList
  short : path.utf8ByteSize < maxPath
  shortNames : ∀ name ∈ Path.names path, name.utf8ByteSize ≤ maxName

/-- An ordinary path in the four parts of its definition. -/
theorem isOrdinary_iff {path : String} :
    IsOrdinary path ↔ path ≠ "" ∧ '\x00' ∉ path.toList ∧ path.utf8ByteSize < maxPath ∧
      ∀ name ∈ Path.names path, name.utf8ByteSize ≤ maxName := by
  constructor
  · rintro ⟨nonempty, noNul, short, shortNames⟩
    exact ⟨nonempty, noNul, short, shortNames⟩
  · rintro ⟨nonempty, noNul, short, shortNames⟩
    exact ⟨nonempty, noNul, short, shortNames⟩

instance (path : String) : Decidable (IsOrdinary path) := decidable_of_iff' _ isOrdinary_iff

/-- No name that an ordinary path is followed by is too long. -/
theorem IsOrdinary.short_of_mem_steps {path : String} (ordinary : IsOrdinary path) :
    ∀ name ∈ steps path, name.utf8ByteSize ≤ maxName := by
  unfold steps
  split
  · exact List.forall_mem_append.2 ⟨ordinary.shortNames, by decide⟩
  · exact ordinary.shortNames

/-- At a file no name can be followed. -/
theorem follow_of_file {position : Position} {content : ByteArray}
    (file : tree.at? position = some (.file content)) (name : String) :
    tree.follow position name = .error (.system SystemError.notADirectory) := by
  rw [follow, file]

/-- Elsewhere a name is followed by its kind. -/
theorem follow_of_noFile {position : Position}
    (noFile : ∀ content, tree.at? position ≠ some (.file content)) (name : String) :
    tree.follow position name =
      if name = "." then .ok position
      else if name = ".." then .ok position.dropLast
      else tree.enter position name := by
  unfold follow
  split
  · rename_i content file
    exact absurd file (noFile content)
  · rfl

/-- A name that is not too long is followed where it leads. -/
theorem Step.follow_eq {position next : Position} {name : String}
    (step : tree.Step position name next) (short : name.utf8ByteSize ≤ maxName) :
    tree.follow position name = .ok next := by
  cases step with
  | dot noFile => rw [follow_of_noFile noFile, if_pos rfl]
  | parent noFile => rw [follow_of_noFile noFile, if_neg (by decide), if_pos rfl]
  | child noDot noParent inDirectory present =>
    have noFile : ∀ content, tree.at? position ≠ some (.file content) := by
      rw [inDirectory]
      nofun
    rw [follow_of_noFile noFile, if_neg noDot, if_neg noParent, enter, inDirectory,
      if_neg (by decide), if_neg (Nat.not_lt.2 short), if_neg (by simpa using present)]

/-- Following a name that is not too long ends where the name leads, at a file, or because the
name is not there. -/
theorem follow_cases (tree : FileTree) (position : Position) {name : String}
    (short : name.utf8ByteSize ≤ maxName) :
    (∃ next, tree.Step position name next) ∨
      (∃ content, tree.at? position = some (.file content)) ∨
      tree.follow position name = .error .noSuchFile := by
  by_cases file : ∃ content, tree.at? position = some (.file content)
  · exact .inr (.inl file)
  have noFile : ∀ content, tree.at? position ≠ some (.file content) := fun content found =>
    file ⟨content, found⟩
  by_cases dot : name = "."
  · subst dot
    exact .inl ⟨position, .dot noFile⟩
  by_cases parent : name = ".."
  · subst parent
    exact .inl ⟨position.dropLast, .parent noFile⟩
  have entered : tree.follow position name = tree.enter position name := by
    rw [follow_of_noFile noFile, if_neg dot, if_neg parent]
  rw [entered, enter]
  cases here : tree.at? position with
  | none => exact .inr (.inr rfl)
  | some node =>
    cases node with
    | file content => exact absurd here (noFile content)
    | directory =>
      by_cases present : tree.at? (position ++ [name]) = none
      · right
        right
        rw [if_neg (by decide), if_neg (Nat.not_lt.2 short), present, if_pos (by decide)]
      · exact .inl ⟨position ++ [name], .child dot parent here present⟩

/-- Names that are not too long are followed where they lead. -/
theorem Leads.walk_eq {position last : Position} {names : List String}
    (leads : tree.Leads position names last)
    (short : ∀ name ∈ names, name.utf8ByteSize ≤ maxName) :
    tree.walk position names = .ok last := by
  induction leads with
  | stop => rfl
  | step first _ inductionHypothesis =>
    obtain ⟨firstShort, laterShort⟩ := List.forall_mem_cons.1 short
    rw [walk, first.follow_eq firstShort]
    exact inductionHypothesis laterShort

/-- Where the names lead to a file too early, following them fails there. -/
theorem MeetsFile.walk_eq {position : Position} {names : List String}
    (meets : tree.MeetsFile position names)
    (short : ∀ name ∈ names, name.utf8ByteSize ≤ maxName) :
    tree.walk position names = .error (.system SystemError.notADirectory) := by
  obtain ⟨front, name, back, reached, content, rfl, leads, file⟩ := meets
  induction leads with
  | stop => rw [List.nil_append, walk, follow_of_file file]
  | step first _ inductionHypothesis =>
    obtain ⟨firstShort, laterShort⟩ := List.forall_mem_cons.1 short
    rw [List.cons_append, walk, first.follow_eq firstShort]
    exact inductionHypothesis laterShort file

/-- What the later names meet is met behind a first one as well. -/
theorem MeetsFile.cons {position next : Position} {name : String} {rest : List String}
    (first : tree.Step position name next) (meets : tree.MeetsFile next rest) :
    tree.MeetsFile position (name :: rest) := by
  obtain ⟨front, other, back, reached, content, rfl, leads, file⟩ := meets
  exact ⟨name :: front, other, back, reached, content, rfl, .step first leads, file⟩

/-- Names that are not too long lead somewhere, or to a file too early, or else following them
fails because one is not there. The induction is on the names: the first of them decides, or
the others do. -/
theorem walk_cases (tree : FileTree) (position : Position) {names : List String}
    (short : ∀ name ∈ names, name.utf8ByteSize ≤ maxName) :
    (∃ last, tree.Leads position names last) ∨ tree.MeetsFile position names ∨
      tree.walk position names = .error .noSuchFile := by
  induction names generalizing position with
  | nil => exact .inl ⟨position, .stop⟩
  | cons name rest inductionHypothesis =>
    obtain ⟨firstShort, laterShort⟩ := List.forall_mem_cons.1 short
    rcases tree.follow_cases position firstShort with ⟨next, first⟩ | ⟨content, file⟩ | missing
    · rcases inductionHypothesis next laterShort with ⟨last, later⟩ | meets | failed
      · exact .inl ⟨last, .step first later⟩
      · exact .inr (.inl (meets.cons first))
      · right
        right
        rw [walk, first.follow_eq firstShort]
        exact failed
    · exact .inr (.inl ⟨[], name, rest, position, content, rfl, .stop, file⟩)
    · right
      right
      rw [walk, missing]

/-- An ordinary path is followed name by name. -/
theorem IsOrdinary.find_eq {path : String} (ordinary : IsOrdinary path) (tree : FileTree)
    (current : Position) :
    tree.find current path =
      (tree.walk (origin current path) (steps path)).map fun position =>
        (tree.at? position).getD .directory := by
  have noNul : path.toList.contains '\x00' = false := by
    simpa using ordinary.noNul
  have nonempty : path.isEmpty = false := by
    simpa using ordinary.nonempty
  rw [find, noNul, nonempty, if_neg (by decide), if_neg (by decide),
    if_neg (Nat.not_le.2 ordinary.short)]

/-- At the end of an ordinary path is found what stands where its names lead. -/
theorem find_of_leads {path : String} (ordinary : IsOrdinary path) {current last : Position}
    (leads : tree.Leads (origin current path) (steps path) last) :
    tree.find current path = .ok ((tree.at? last).getD .directory) := by
  rw [ordinary.find_eq, leads.walk_eq ordinary.short_of_mem_steps]
  rfl

/-- A path that goes on at a file is not followed any further. -/
theorem find_of_blocks {path : String} (ordinary : IsOrdinary path) {current : Position}
    (blocks : tree.Blocks current path) :
    tree.find current path = .error (.system SystemError.notADirectory) := by
  rw [ordinary.find_eq, MeetsFile.walk_eq blocks ordinary.short_of_mem_steps]
  rfl

/-- A path that leads nowhere and meets no file is not found. -/
theorem find_of_absent {path : String} (ordinary : IsOrdinary path) {current : Position}
    (absent : ¬ tree.Has current path) (clear : ¬ tree.Blocks current path) :
    tree.find current path = .error .noSuchFile := by
  rcases tree.walk_cases (origin current path) ordinary.short_of_mem_steps with
    leads | meets | failed
  · exact absurd leads absent
  · exact absurd meets clear
  · rw [ordinary.find_eq, failed]
    rfl

/-- A path at which the walk fails leads nowhere. -/
theorem not_has_of_walk {path : String} (ordinary : IsOrdinary path) {current : Position}
    {cause : IoError} (failed : tree.walk (origin current path) (steps path) = .error cause) :
    ¬ tree.Has current path := by
  rintro ⟨last, leads⟩
  rw [leads.walk_eq ordinary.short_of_mem_steps] at failed
  cases failed

/-- A path at which the walk is stopped by a file meets this file. -/
theorem blocks_of_walk {path : String} (ordinary : IsOrdinary path) {current : Position}
    (stopped : tree.walk (origin current path) (steps path) =
      .error (.system SystemError.notADirectory)) : tree.Blocks current path := by
  rcases tree.walk_cases (origin current path) ordinary.short_of_mem_steps with
    leads | meets | missing
  · exact absurd leads (not_has_of_walk ordinary stopped)
  · exact meets
  · rw [missing] at stopped
    cases stopped

/-- A path at which the walk finds something missing meets no file. -/
theorem not_blocks_of_walk {path : String} (ordinary : IsOrdinary path) {current : Position}
    (missing : tree.walk (origin current path) (steps path) = .error .noSuchFile) :
    ¬ tree.Blocks current path := by
  intro blocks
  rw [MeetsFile.walk_eq blocks ordinary.short_of_mem_steps] at missing
  cases missing

end ManifestAudit.FileTree
