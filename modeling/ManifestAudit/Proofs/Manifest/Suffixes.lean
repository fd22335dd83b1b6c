import ManifestAudit.Proofs.Manifest.LineGrammar

/-!
# What stands behind a name

A line may say more of a package than its name: extras in square brackets, a version constraint,
an annotation behind a semicolon. None of it belongs to the name, but reading knows the end of a
name only by white space and three marks. So the name is found exactly if it is set apart from
what follows, by a gap or by a constraint that starts with one of the marks. Otherwise the
beginning of the next part is taken for the end of the name: a bracket, a semicolon, or the first
sign of a constraint that starts with no mark.
-/

namespace ManifestAudit.Requirement

open Text

/-- The characters of a bare name: letters and digits of ASCII, and three signs. -/
def isNameChar (c : Char) : Bool := c.isAlphanum || ['.', '_', '-'].contains c

/-- A bare name: characters of names, of which the first is a letter or a digit. -/
structure IsBare (name : List Char) : Prop where
  starts : ∃ first, name.head? = some first ∧ first.isAlphanum = true
  made : ∀ c ∈ name, isNameChar c = true

/-- A bare name in the two parts of its definition. -/
theorem isBare_iff {name : List Char} :
    IsBare name ↔ (name.head?.any Char.isAlphanum && name.all isNameChar) = true := by
  rw [Bool.and_eq_true, Option.any_eq_true, List.all_eq_true]
  constructor
  · rintro ⟨starts, made⟩
    exact ⟨starts, made⟩
  · rintro ⟨starts, made⟩
    exact ⟨starts, made⟩

instance (name : List Char) : Decidable (IsBare name) := decidable_of_iff' _ isBare_iff

/-- The comparisons of a version constraint. -/
inductive Comparison
  | less
  | atMost
  | greater
  | atLeast
  | equal
  | identical
  | compatible
  | different
deriving DecidableEq, Repr

namespace Comparison

/-- How a comparison is written. -/
def sign : Comparison → List Char
  | less => ['<']
  | atMost => ['<', '=']
  | greater => ['>']
  | atLeast => ['>', '=']
  | equal => ['=', '=']
  | identical => ['=', '=', '=']
  | compatible => ['~', '=']
  | different => ['!', '=']

/-- Whether a comparison starts with one of the marks. -/
def isMarked : Comparison → Bool
  | compatible => false
  | different => false
  | _ => true

end Comparison

/-- What a line may say of a package behind its name. -/
inductive Part
  | extras (listed : List Char)
  | constraint (comparison : Comparison) (version : List Char)
  | annotation (note : List Char)

namespace Part

/-- How a part is written. -/
def text : Part → List Char
  | extras listed => '[' :: listed ++ [']']
  | constraint comparison version => comparison.sign ++ version
  | annotation note => ';' :: note

/-- Whether a part starts with one of the marks. -/
def isMarked : Part → Bool
  | extras _ => false
  | constraint comparison _ => comparison.isMarked
  | annotation _ => false

/-- The signs with which the other parts start. -/
def otherSigns : List Char := ['[', ';', '~', '!']

/-- A part starts with a mark if it is marked, and with another sign if it is not. -/
theorem exists_text_eq (part : Part) :
    ∃ first rest, part.text = first :: rest ∧
      first ∈ if part.isMarked then constraintMarks else otherSigns := by
  cases part with
  | extras listed => exact ⟨'[', _, rfl, (by decide : '[' ∈ otherSigns)⟩
  | constraint comparison version =>
    have opens : ∃ first rest, comparison.sign = first :: rest ∧
        first ∈ if comparison.isMarked then constraintMarks else otherSigns := by
      cases comparison <;> exact ⟨_, _, rfl, by decide⟩
    obtain ⟨first, rest, written, sort⟩ := opens
    exact ⟨first, rest ++ version, by rw [text, written, List.cons_append], sort⟩
  | annotation note => exact ⟨';', note, rfl, (by decide : ';' ∈ otherSigns)⟩

end Part

/-- A character of names is neither white space nor a mark. -/
theorem endsName_of_isNameChar {c : Char} (nameChar : isNameChar c = true) :
    endsName c = false := by
  have none : (whiteSpace ++ constraintMarks).all (fun c => !isNameChar c) = true := by decide
  by_contra ends
  have listed : c ∈ whiteSpace ++ constraintMarks :=
    List.mem_append.2 (endsName_iff_mem.1 (Bool.not_eq_false _ ▸ ends))
  have other := List.all_eq_true.1 none c listed
  rw [nameChar] at other
  cases other

/-- The other signs end no name, but they are no characters of names either. -/
theorem otherSigns_plain {sign : Char} (other : sign ∈ Part.otherSigns) :
    endsName sign = false ∧ isNameChar sign = false := by
  have all : Part.otherSigns.all (fun c => !endsName c && !isNameChar c) = true := by decide
  simpa using List.all_eq_true.1 all sign other

/-- A requirement in full: a bare name with white space in front, and behind it parts, each with
or without a gap in front. Such a line has at most one part of each sort, in the order of the
constructors; neither is asked for, since reading looks no further than the first part. -/
structure Full where
  indent : List Char
  name : String
  parts : List (List Char × Part)
  trail : List Char
  indented : ∀ c ∈ indent, c ∈ whiteSpace
  bare : IsBare name.toList
  spaced : ∀ part ∈ parts, ∀ c ∈ part.1, c ∈ whiteSpace
  trailing : ∀ c ∈ trail, c ∈ whiteSpace

namespace Full

variable {requirement : Full}

/-- What stands behind the name. -/
def behind (requirement : Full) : List Char :=
  (requirement.parts.flatMap fun part => part.1 ++ part.2.text) ++ requirement.trail

/-- The line of a requirement. -/
def line (requirement : Full) : List Char :=
  requirement.indent ++ requirement.name.toList ++ requirement.behind

/-- Whether the name is set apart from what follows: by a gap, or by the mark with which the first
part starts, or because there are no parts. -/
def IsApart (requirement : Full) : Prop :=
  ∀ part ∈ requirement.parts.head?, part.1 ≠ [] ∨ part.2.isMarked = true

instance (requirement : Full) : Decidable requirement.IsApart :=
  inferInstanceAs (Decidable (∀ part ∈ requirement.parts.head?, part.1 ≠ [] ∨ _ = true))

/-- The requirement of a bare name and one part, with so many spaces between them. -/
def ofPart (name : String) (bare : IsBare name.toList) (spaces : Nat) (part : Part) : Full where
  indent := []
  name := name
  parts := [(List.replicate spaces ' ', part)]
  trail := []
  indented := by simp
  bare := bare
  spaced := by
    intro only member c space
    obtain rfl := List.mem_singleton.1 member
    rw [List.eq_of_mem_replicate space]
    decide
  trailing := by simp

/-- A name that is set apart is followed by white space, by a mark or by nothing. -/
theorem endsName_of_isApart (apart : requirement.IsApart) {first : Char}
    (follows : requirement.behind.head? = some first) : endsName first = true := by
  rw [endsName_iff_mem]
  cases parts : requirement.parts with
  | nil =>
    rw [behind, parts] at follows
    exact .inl (requirement.trailing first (List.mem_of_mem_head? follows))
  | cons part others =>
    rw [behind, parts, List.flatMap_cons] at follows
    cases gap : part.1 with
    | cons space more =>
      rw [gap] at follows
      obtain rfl : space = first := Option.some.inj follows
      have inGap : space ∈ part.1 := gap ▸ List.mem_cons_self
      exact .inl (requirement.spaced part (parts ▸ List.mem_cons_self) space inGap)
    | nil =>
      -- Without a gap the part itself comes next, so it is a marked one.
      obtain ⟨mark, rest, written, sort⟩ := part.2.exists_text_eq
      have marked : part.2.isMarked = true :=
        (apart part (by rw [parts]; rfl)).resolve_left fun spaced => spaced gap
      rw [gap, written] at follows
      obtain rfl : mark = first := Option.some.inj follows
      rw [if_pos marked] at sort
      exact .inr sort

/-- A name that is not set apart is followed by another sign. -/
theorem exists_behind_eq_of_not_isApart (joined : ¬ requirement.IsApart) :
    ∃ sign ∈ Part.otherSigns, ∃ rest, requirement.behind = sign :: rest := by
  cases parts : requirement.parts with
  | nil => exact absurd (fun part first => by rw [parts] at first; cases first) joined
  | cons part others =>
    obtain ⟨sign, rest, written, sort⟩ := part.2.exists_text_eq
    have first : part ∈ requirement.parts.head? := by rw [parts]; rfl
    simp only [IsApart, not_forall, not_or, not_not] at joined
    obtain ⟨other, otherFirst, gap, unmarked⟩ := joined
    obtain rfl : part = other := Option.some.inj (first.symm.trans otherFirst)
    rw [if_neg unmarked] at sort
    rw [behind, parts, List.flatMap_cons, gap, written]
    exact ⟨sign, sort, _, rfl⟩

/-- Of what follows a name that is not set apart, another sign is read as part of the name. -/
theorem exists_mem_leadingName_of_not_isApart (joined : ¬ requirement.IsApart) :
    ∃ sign ∈ Part.otherSigns, sign ∈ leadingName requirement.behind := by
  obtain ⟨sign, other, rest, follows⟩ := exists_behind_eq_of_not_isApart joined
  have goesOn : endsName sign = false := (otherSigns_plain other).1
  refine ⟨sign, other, ?_⟩
  rw [follows, leadingName, List.takeWhile_cons_of_pos (by rw [goesOn]; rfl)]
  exact List.mem_cons_self

/-- Nothing of what follows is read as part of the name exactly if the name is set apart. -/
theorem leadingName_behind_eq_nil_iff :
    leadingName requirement.behind = [] ↔ requirement.IsApart := by
  constructor
  · intro nothing
    by_contra joined
    obtain ⟨sign, _, taken⟩ := exists_mem_leadingName_of_not_isApart joined
    rw [nothing] at taken
    cases taken
  · intro apart
    cases follows : requirement.behind with
    | nil => rfl
    | cons first rest =>
      have ends : endsName first = true :=
        endsName_of_isApart apart (by rw [follows, List.head?_cons])
      exact List.takeWhile_cons_of_neg (by rw [ends]; decide)

/-- A line is written as white space, the name with the run of characters behind it that reading
takes for a part of it, and the rest. -/
theorem written (requirement : Full) :
    Written requirement.line requirement.indent
      (requirement.name.toList ++ leadingName requirement.behind)
      (requirement.behind.dropWhile fun c => !endsName c) := by
  obtain ⟨first, starts, alphanumeric⟩ := requirement.bare.starts
  have nonempty : requirement.name.toList ≠ [] := by
    intro empty
    rw [empty] at starts
    cases starts
  constructor
  · rw [line, ← List.append_assoc, List.append_assoc (requirement.indent ++ _), leadingName,
      List.takeWhile_append_dropWhile]
  · exact requirement.indented
  · exact List.append_ne_nil_of_left_ne_nil nonempty _
  · intro c member
    rcases List.mem_append.1 member with inName | taken
    · exact endsName_eq_false_iff.1 (endsName_of_isNameChar (requirement.bare.made c inName))
    · have goesOn := List.mem_takeWhile_imp (p := fun c => !endsName c) taken
      exact endsName_eq_false_iff.1 (by simpa using goesOn)
  · rw [List.head?_append_of_ne_nil _ nonempty, starts]
    intro comment
    obtain rfl := Option.some.inj comment
    cases alphanumeric
  · intro c follows
    have stop := List.head?_dropWhile_not (fun c => !endsName c) requirement.behind
    rw [follows] at stop
    exact endsName_iff_mem.1 (by simpa using stop)

/-- A line is read as the name and the run of characters behind it. -/
theorem packageName?_line (requirement : Full) :
    packageName? (String.ofList requirement.line) =
      some (requirement.name ++ String.ofList (leadingName requirement.behind)) := by
  rw [packageName?, String.toList_ofList, requirement.written.nameIn?_eq, Option.map_some,
    String.ofList_append, String.ofList_toList]

/-- The name is found exactly if it is set apart. -/
theorem packageName?_line_eq_some_iff (requirement : Full) :
    packageName? (String.ofList requirement.line) = some requirement.name ↔
      requirement.IsApart := by
  rw [packageName?_line, Option.some_inj, ← leadingName_behind_eq_nil_iff]
  constructor
  · intro same
    have characters := congrArg String.toList same
    rw [String.toList_append, String.toList_ofList] at characters
    exact List.append_right_eq_self.1 characters
  · intro nothing
    rw [nothing, ← String.toList_inj, String.toList_append, String.toList_ofList, List.append_nil]

/-- If the name is not set apart, its line is read as a longer name, which is no bare one. -/
theorem exists_longer_of_not_isApart (joined : ¬ requirement.IsApart) :
    ∃ longer, packageName? (String.ofList requirement.line) = some longer ∧
      requirement.name.toList <+: longer.toList ∧ ¬ IsBare longer.toList := by
  obtain ⟨sign, other, taken⟩ := exists_mem_leadingName_of_not_isApart joined
  refine ⟨_, requirement.packageName?_line, ?_, ?_⟩
  · rw [String.toList_append]
    exact List.prefix_append _ _
  · intro bare
    rw [String.toList_append, String.toList_ofList] at bare
    have nameChar : isNameChar sign = true := bare.made sign (List.mem_append_right _ taken)
    rw [(otherSigns_plain other).2] at nameChar
    cases nameChar

/-- A bare name is found on the line of a requirement exactly if it is the name of the
requirement and is set apart. -/
theorem packageName?_line_of_isBare {name : String} (bare : IsBare name.toList) :
    packageName? (String.ofList requirement.line) = some name ↔
      requirement.name = name ∧ requirement.IsApart := by
  constructor
  · intro found
    have apart : requirement.IsApart := by
      by_contra joined
      obtain ⟨longer, read, _, notBare⟩ := exists_longer_of_not_isApart joined
      obtain rfl := Option.some.inj (read.symm.trans found)
      exact notBare bare
    have named := requirement.packageName?_line_eq_some_iff.2 apart
    exact ⟨Option.some.inj (named.symm.trans found), apart⟩
  · rintro ⟨rfl, apart⟩
    exact requirement.packageName?_line_eq_some_iff.2 apart

end Full

end ManifestAudit.Requirement
