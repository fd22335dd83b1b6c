import ManifestAudit.Manifest.Requirement
import Mathlib.Data.List.DropRight
import Mathlib.Data.List.TakeWhile
import Mathlib.Data.Set.Subsingleton

/-!
# The grammar of a requirement line

A line that names a package is white space, the name, and a rest: `Written` says so without
saying how to find the three. A line can be written so in at most one way, and reading it
gives the name exactly if it can. What is left are the lines of white space alone and those
whose first other character is one of four.

The same name comes out if a line is read in steps, each of which looks at the whole text
that the one before left: white space is taken off at both ends, comments are set apart, the
rest is cut at the first constraint, and the first word in front of the cut is the name. That
the steps agree with one walk from left to right is owed to the order of the tests, since
white space may stand on either side of a constraint and a number sign behind one.

White space is given here by its twenty-five characters.
-/

namespace ManifestAudit

namespace Text

/-- The white space of the character standard. -/
def whiteSpace : List Char :=
  ['\t', '\n', '\x0b', '\x0c', '\r', ' ', '\u0085', '\u00a0', '\u1680', '\u2000', '\u2001',
   '\u2002', '\u2003', '\u2004', '\u2005', '\u2006', '\u2007', '\u2008', '\u2009', '\u200a',
   '\u2028', '\u2029', '\u202f', '\u205f', '\u3000']

/-- A code point lies in one of some ranges exactly if it is listed when they are written
out. -/
theorem inRanges_iff_mem {ranges : List (Nat × Nat)} {codePoint : Nat} :
    inRanges ranges codePoint = true ↔
      codePoint ∈ ranges.flatMap fun range => List.range' range.1 (range.2 + 1 - range.1) := by
  simp only [inRanges, List.any_eq_true, List.mem_flatMap, List.mem_range'_1, Bool.and_eq_true,
    decide_eq_true_eq]
  refine exists_congr fun range => and_congr_right fun _ => ?_
  omega

/-- The ranges of code points hold white space and nothing else. -/
theorem isBlank_iff_mem_whiteSpace {c : Char} : isBlank c = true ↔ c ∈ whiteSpace := by
  have byCodePoint : c ∈ whiteSpace ↔ c.toNat ∈ whiteSpace.map Char.toNat :=
    (List.mem_map_of_injective fun _ _ => Char.toNat_inj.1).symm
  have codePoints : whiteSpace.map Char.toNat =
      blankRanges.flatMap fun range => List.range' range.1 (range.2 + 1 - range.1) := by
    decide
  rw [byCodePoint, codePoints, isBlank, inRanges_iff_mem]

/-- A character is no blank exactly if it is not white space. -/
theorem isBlank_eq_false_iff {c : Char} : isBlank c = false ↔ c ∉ whiteSpace := by
  rw [← isBlank_iff_mem_whiteSpace, Bool.not_eq_true]

/-- A text whose first character is no blank has no blanks in front. -/
theorem dropBlanks_eq_self {text : List Char}
    (visible : ∀ c, text.head? = some c → isBlank c = false) : dropBlanks text = text := by
  cases text with
  | nil => rfl
  | cons first rest =>
    have notBlank : isBlank first = false := visible first rfl
    exact List.dropWhile_cons_of_neg (Bool.eq_false_iff.1 notBlank)

/-- Behind the blanks in front a text goes on with no blank. -/
theorem isBlank_head_dropBlanks {line : List Char} {first : Char}
    (starts : (dropBlanks line).head? = some first) : isBlank first = false := by
  have stop := List.head?_dropWhile_not isBlank line
  rw [dropBlanks] at starts
  rw [starts] at stop
  exact stop

/-- The text without blanks at its ends. -/
def trimmed (text : List Char) : List Char := (dropBlanks text).rdropWhile isBlank

/-- The first run of characters that are no blanks. -/
def firstWord? (text : List Char) : Option (List Char) :=
  let word := (dropBlanks text).takeWhile fun c => !isBlank c
  if word = [] then none else some word

/-- Trimming a line at its end keeps its first character: if it goes, all does, and the first
character is no blank. -/
theorem head?_trimmed (line : List Char) : (trimmed line).head? = (dropBlanks line).head? := by
  cases content : trimmed line with
  | cons first rest =>
    have whole : trimmed line ++ (dropBlanks line).rtakeWhile isBlank = dropBlanks line :=
      List.rdropWhile_append_rtakeWhile
    rw [← whole, content, List.cons_append, List.head?_cons, List.head?_cons]
  | nil =>
    have allBlank : ∀ c ∈ dropBlanks line, isBlank c = true := List.rdropWhile_eq_nil_iff.1 content
    cases starts : dropBlanks line with
    | nil => rfl
    | cons first rest =>
      have visible : isBlank first = false := isBlank_head_dropBlanks (by rw [starts]; rfl)
      have blank : isBlank first = true := allBlank first (starts ▸ List.mem_cons_self)
      rw [visible] at blank
      cases blank

end Text

namespace Requirement

open Text

/-- The marks of which each begins a version constraint. -/
def constraintMarks : List Char := ['<', '>', '=']

/-- A character begins a constraint exactly if it is one of the marks. -/
theorem isConstraint_iff_mem {c : Char} : isConstraint c = true ↔ c ∈ constraintMarks := by
  simp [isConstraint, constraintMarks, or_assoc]

/-- A name stops before white space and before the marks. -/
theorem endsName_iff_mem {c : Char} :
    endsName c = true ↔ c ∈ whiteSpace ∨ c ∈ constraintMarks := by
  rw [endsName, Bool.or_eq_true, isBlank_iff_mem_whiteSpace, isConstraint_iff_mem]

/-- A name goes on with a character that is neither white space nor a mark. -/
theorem endsName_eq_false_iff {c : Char} :
    endsName c = false ↔ c ∉ whiteSpace ∧ c ∉ constraintMarks := by
  rw [← not_or, ← endsName_iff_mem, Bool.not_eq_true]

/-- A line that is written as white space, a name, and a rest that the name does not reach
into. -/
structure Written (line before name after : List Char) : Prop where
  whole : line = before ++ name ++ after
  indented : ∀ c ∈ before, c ∈ whiteSpace
  nonempty : name ≠ []
  plain : ∀ c ∈ name, c ∉ whiteSpace ∧ c ∉ constraintMarks
  noComment : name.head? ≠ some '#'
  stopped : ∀ c, after.head? = some c → c ∈ whiteSpace ∨ c ∈ constraintMarks

namespace Written

variable {line before name after : List Char}

/-- The white space in front is all of the white space that the line starts with. -/
theorem takeBlanks_eq (written : Written line before name after) :
    line.takeWhile isBlank = before := by
  have blank : ∀ c ∈ before, isBlank c = true := fun c member =>
    isBlank_iff_mem_whiteSpace.2 (written.indented c member)
  obtain ⟨first, others, rfl⟩ := List.exists_cons_of_ne_nil written.nonempty
  have visible : isBlank first = false :=
    isBlank_eq_false_iff.2 (written.plain first List.mem_cons_self).1
  rw [written.whole, List.append_assoc, List.takeWhile_append_of_pos blank, List.cons_append,
    List.takeWhile_cons_of_neg (Bool.eq_false_iff.1 visible), List.append_nil]

/-- Behind the white space in front the line goes on with the name. -/
theorem dropBlanks_eq (written : Written line before name after) :
    dropBlanks line = name ++ after := by
  have cut : line.takeWhile isBlank ++ dropBlanks line = line := List.takeWhile_append_dropWhile
  rw [written.takeBlanks_eq] at cut
  apply List.append_cancel_left
  rw [cut, written.whole, List.append_assoc]

/-- The name is the leading run of what follows the white space. -/
theorem leadingName_eq (written : Written line before name after) :
    leadingName (dropBlanks line) = name := by
  have goesOn : ∀ c ∈ name, (!endsName c) = true := fun c member => by
    rw [endsName_eq_false_iff.2 (written.plain c member), Bool.not_false]
  have ended : after.takeWhile (fun c => !endsName c) = [] := by
    cases following : after with
    | nil => rfl
    | cons first rest =>
      have ends : endsName first = true :=
        endsName_iff_mem.2 (written.stopped first (by rw [following, List.head?_cons]))
      rw [List.takeWhile_cons_of_neg (by rw [ends]; decide)]
  rw [written.dropBlanks_eq, leadingName, List.takeWhile_append_of_pos goesOn, ended,
    List.append_nil]

/-- Reading finds the name that is written on a line. -/
theorem nameIn?_eq (written : Written line before name after) : nameIn? line = some name := by
  refine nameIn?_eq_some_iff.2 ⟨?_, written.leadingName_eq, written.nonempty⟩
  rw [written.dropBlanks_eq, List.head?_append_of_ne_nil _ written.nonempty]
  exact written.noComment

/-- A line is written in one way only. -/
theorem unique {otherBefore otherName otherAfter : List Char}
    (written : Written line before name after)
    (other : Written line otherBefore otherName otherAfter) :
    before = otherBefore ∧ name = otherName ∧ after = otherAfter := by
  have sameBefore : before = otherBefore := written.takeBlanks_eq.symm.trans other.takeBlanks_eq
  have sameName : name = otherName := written.leadingName_eq.symm.trans other.leadingName_eq
  refine ⟨sameBefore, sameName, ?_⟩
  subst sameName
  exact List.append_cancel_left (written.dropBlanks_eq.symm.trans other.dropBlanks_eq)

/-- A line in which reading finds a name is written as the white space in front, the name,
and what follows it. -/
theorem of_nameIn? (named : nameIn? line = some name) :
    Written line (line.takeWhile isBlank) name
      ((dropBlanks line).dropWhile fun c => !endsName c) := by
  obtain ⟨noComment, leading, nonempty⟩ := nameIn?_eq_some_iff.1 named
  refine ⟨?_, ?_, nonempty, ?_, ?_, ?_⟩
  · rw [← leading, List.append_assoc, leadingName, List.takeWhile_append_dropWhile]
    exact List.takeWhile_append_dropWhile.symm
  · intro c member
    exact isBlank_iff_mem_whiteSpace.1 (List.mem_takeWhile_imp member)
  · intro c member
    exact endsName_eq_false_iff.1 (endsName_of_mem_nameIn? named c member)
  · intro comment
    rw [← leading, leadingName, List.head?_takeWhile, Option.filter_eq_some_iff] at comment
    exact noComment comment.1
  · intro c first
    have stop := List.head?_dropWhile_not (fun c => !endsName c) (dropBlanks line)
    rw [first] at stop
    exact endsName_iff_mem.1 (by simpa using stop)

end Written

/-- Content that starts with no blank names nothing exactly if it starts with a number sign or
with a mark. -/
theorem startingName?_cons_eq_none_iff {first : Char} (visible : isBlank first = false)
    (rest : List Char) :
    startingName? (first :: rest) = none ↔ first ∈ '#' :: constraintMarks := by
  have stopsAtOnce : leadingName (first :: rest) = [] ↔ isConstraint first = true := by
    rw [leadingName, List.takeWhile_cons]
    cases marked : isConstraint first <;> simp [endsName, visible, marked]
  have nameless : ((first :: rest).head? = some '#' ∨ leadingName (first :: rest) = []) ↔
      first ∈ '#' :: constraintMarks := by
    rw [stopsAtOnce, isConstraint_iff_mem, List.mem_cons, List.head?_cons, Option.some_inj]
  rw [← nameless, startingName?]
  split
  · rename_i holds
    exact iff_of_true rfl holds
  · rename_i fails
    exact iff_of_false (Option.some_ne_none _) fails

/-- A line names nothing exactly if it is all white space or if its first other character is
a number sign or a mark. -/
theorem nameIn?_eq_none_iff (line : List Char) :
    nameIn? line = none ↔ (∀ c ∈ line, c ∈ whiteSpace) ∨
      ∃ first ∈ '#' :: constraintMarks, line.find? (fun c => c ∉ whiteSpace) = some first := by
  have first? : line.find? (fun c => c ∉ whiteSpace) = (dropBlanks line).head? := by
    rw [List.find?_eq_head?_dropWhile_not, dropBlanks]
    congr 2
    funext c
    rw [Bool.eq_iff_iff, isBlank_iff_mem_whiteSpace]
    simp
  rw [first?, nameIn?]
  cases content : dropBlanks line with
  | nil =>
    have allBlank : ∀ c ∈ line, isBlank c = true := List.dropWhile_eq_nil_iff.1 content
    exact iff_of_true rfl (.inl fun c member => isBlank_iff_mem_whiteSpace.1 (allBlank c member))
  | cons first rest =>
    have visible : isBlank first = false := isBlank_head_dropBlanks (by rw [content]; rfl)
    have notAll : ¬ ∀ c ∈ line, c ∈ whiteSpace := by
      intro all
      have inLine : first ∈ line :=
        (List.dropWhile_sublist _).mem (content ▸ List.mem_cons_self : first ∈ dropBlanks line)
      exact isBlank_eq_false_iff.1 visible (all first inLine)
    rw [startingName?_cons_eq_none_iff visible, or_iff_right notAll]
    simp only [List.head?_cons, Option.some.injEq, exists_eq_right']

/-- The package name on a line, read in steps: trimming, telling comments and empty lines
apart, cutting at the first constraint, and taking the first word. -/
def nameInSteps? (line : List Char) : Option (List Char) :=
  let content := trimmed line
  if content = [] ∨ content.head? = some '#' then none
  else firstWord? (content.takeWhile fun c => !isConstraint c)

/-- Blanks behind content do not change the name that it starts with. -/
theorem leadingName_append_blanks (content : List Char) {blanks : List Char}
    (blank : ∀ c ∈ blanks, isBlank c = true) :
    leadingName (content ++ blanks) = leadingName content := by
  induction content with
  | nil =>
    cases blanks with
    | nil => rfl
    | cons first rest =>
      have ends : endsName first = true := by simp [endsName, blank first List.mem_cons_self]
      simp [leadingName, ends]
  | cons first rest inductionHypothesis =>
    cases ends : endsName first with
    | true => simp [leadingName, ends]
    | false =>
      rw [List.cons_append, leadingName, leadingName, List.takeWhile_cons_of_pos (by rw [ends]; rfl),
        List.takeWhile_cons_of_pos (by rw [ends]; rfl)]
      exact congrArg (first :: ·) inductionHypothesis

/-- Trimming a line at its end keeps the name that it starts with. -/
theorem leadingName_trimmed (line : List Char) :
    leadingName (trimmed line) = leadingName (dropBlanks line) := by
  have blank : ∀ c ∈ (dropBlanks line).rtakeWhile isBlank, isBlank c = true := fun _ member =>
    List.mem_rtakeWhile_imp member
  rw [← leadingName_append_blanks (trimmed line) blank, trimmed,
    List.rdropWhile_append_rtakeWhile]

/-- In content that starts with no blank, the first word in front of a constraint is the
leading name. -/
theorem firstWord?_cut {content : List Char}
    (visible : ∀ c, content.head? = some c → isBlank c = false) :
    firstWord? (content.takeWhile fun c => !isConstraint c) =
      if leadingName content = [] then none else some (leadingName content) := by
  have startsVisible : ∀ c, (content.takeWhile fun c => !isConstraint c).head? = some c →
      isBlank c = false := by
    intro c starts
    rw [List.head?_takeWhile, Option.filter_eq_some_iff] at starts
    exact visible c starts.1
  have sameRun : (content.takeWhile fun c => !isConstraint c).takeWhile (fun c => !isBlank c) =
      leadingName content := by
    rw [List.takeWhile_takeWhile, leadingName]
    congr 1
    funext c
    cases blank : isBlank c <;> cases marked : isConstraint c <;> simp [endsName, blank, marked]
  rw [firstWord?, dropBlanks_eq_self startsVisible, sameRun]

/-- Reading a line in steps finds the same name as reading it in one walk. -/
theorem nameInSteps?_eq (line : List Char) : nameInSteps? line = nameIn? line := by
  have visible : ∀ c, (trimmed line).head? = some c → isBlank c = false := by
    intro c starts
    rw [head?_trimmed] at starts
    exact isBlank_head_dropBlanks starts
  rw [nameInSteps?, firstWord?_cut visible, leadingName_trimmed, head?_trimmed, nameIn?,
    startingName?]
  by_cases empty : trimmed line = []
  · -- Nothing is left after trimming, so there is no leading name either.
    have nameless : leadingName (dropBlanks line) = [] := by
      rw [← leadingName_trimmed, empty]
      rfl
    rw [if_pos (.inl empty), if_pos (.inr nameless)]
  · by_cases comment : (dropBlanks line).head? = some '#'
    · rw [if_pos (.inr comment), if_pos (.inl comment)]
    · simp only [empty, comment, false_or, if_false]

/-- Reading a line follows its grammar. A name is found exactly if the line is white space,
the name and a rest, where the name is not empty, holds neither white space nor one of the
three marks and starts with no number sign, and the rest is empty or starts with white space
or a mark. A line can be written so in one way at most. No name is found exactly if the line is
all white space or if its first other character is a number sign or a mark. And reading in
steps finds the same. -/
theorem packageName?_grammar (line : String) :
    (∀ name, packageName? line = some name ↔
      ∃ before after, Written line.toList before name.toList after) ∧
    {parts : List Char × List Char × List Char |
      Written line.toList parts.1 parts.2.1 parts.2.2}.Subsingleton ∧
    (packageName? line = none ↔ (∀ c ∈ line.toList, c ∈ whiteSpace) ∨
      ∃ first ∈ '#' :: constraintMarks,
        line.toList.find? (fun c => c ∉ whiteSpace) = some first) ∧
    packageName? line = (nameInSteps? line.toList).map String.ofList := by
  refine ⟨fun name => ⟨?_, ?_⟩, ?_, ?_, ?_⟩
  · intro named
    obtain ⟨characters, found, rfl⟩ := Option.map_eq_some_iff.1 named
    rw [String.toList_ofList]
    exact ⟨_, _, .of_nameIn? found⟩
  · rintro ⟨before, after, written⟩
    rw [packageName?, written.nameIn?_eq, Option.map_some, String.ofList_toList]
  · intro parts written others writtenToo
    obtain ⟨sameBefore, sameName, sameAfter⟩ := Written.unique written writtenToo
    exact Prod.ext sameBefore (Prod.ext sameName sameAfter)
  · rw [packageName?, Option.map_eq_none_iff, nameIn?_eq_none_iff]
  · rw [nameInSteps?_eq, packageName?]

-- White space of two kinds in front and a no-break space at the end, a number sign inside the
-- name and one behind it, a constraint behind a blank; then a mark in place of a name.
example : packageName? "\u2003 torch#2 >=1 # <\u00a0" = some "torch#2" ∧
    packageName? " \u00a0=torch" = none := by
  decide

end Requirement

end ManifestAudit
