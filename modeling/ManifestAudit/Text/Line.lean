/-!
# Lines of a text

A text is cut after each line break. Ten characters break a line, and a carriage
return directly before a line feed counts with it as one break. A break ends a
line and starts none, so a text that ends in a break has no empty last line, and
the empty text has no line at all.

`segments` keeps each line together with the break that ends it; laid end to end
they are the text (`flatten_segments`).
-/

namespace ManifestAudit.Text

/-- The characters that end a line on their own. -/
def breakChars : List Char :=
  ['\n', '\r', '\x0b', '\x0c', '\x1c', '\x1d', '\x1e', '\u0085', '\u2028', '\u2029']

/-- Whether a character ends a line. -/
def isBreak (c : Char) : Bool := breakChars.contains c

/-- One line of a text and the break after it. The break is empty only where the
text ends without one. -/
structure Segment where
  body : List Char
  ending : List Char
deriving DecidableEq, Repr

/-- The characters of a line and of its break, in text order. -/
def Segment.chars (segment : Segment) : List Char := segment.body ++ segment.ending

/-- Put one character in front of a text that is already cut. A break character
ends an empty line of its own, except that a carriage return joins a line feed
that is the whole first segment; any other character goes to the front of the
first line. -/
def Segment.push (c : Char) (later : List Segment) : List Segment :=
  if isBreak c then
    match later with
    | ⟨[], ['\n']⟩ :: rest =>
      if c = '\r' then ⟨[], ['\r', '\n']⟩ :: rest else ⟨[], [c]⟩ :: later
    | _ => ⟨[], [c]⟩ :: later
  else
    match later with
    | [] => [⟨[c], []⟩]
    | first :: rest => ⟨c :: first.body, first.ending⟩ :: rest

/-- The lines of a text, each with its break. -/
def segments (text : List Char) : List Segment := text.foldr Segment.push []

/-- The lines of a text, without their breaks. -/
def lines (text : List Char) : List (List Char) := (segments text).map Segment.body

@[simp] theorem segments_nil : segments [] = [] := rfl

@[simp] theorem segments_cons (c : Char) (text : List Char) :
    segments (c :: text) = Segment.push c (segments text) := rfl

/-- Pushing a character adds it in front of the characters already cut. -/
theorem Segment.flatten_push (c : Char) (later : List Segment) :
    (Segment.push c later).flatMap Segment.chars = c :: later.flatMap Segment.chars := by
  unfold Segment.push
  split
  · split
    · split <;> simp_all [Segment.chars]
    · simp [Segment.chars]
  · split <;> simp [Segment.chars]

/-- Cutting loses nothing: the segments laid end to end are the text. -/
theorem flatten_segments (text : List Char) :
    (segments text).flatMap Segment.chars = text := by
  induction text with
  | nil => rfl
  | cons c rest inductionHypothesis =>
    rw [segments_cons, Segment.flatten_push, inductionHypothesis]

/-- Pushing a character keeps breaks out of the lines: a break gets an empty line, and
the line in front is extended by other characters only. -/
theorem Segment.unbroken_push {c : Char} {later : List Segment}
    (unbroken : ∀ segment ∈ later, ∀ d ∈ segment.body, isBreak d = false) :
    ∀ segment ∈ Segment.push c later, ∀ d ∈ segment.body, isBreak d = false := by
  have inEmpty : ∀ d ∈ ([] : List Char), isBreak d = false := fun _ none =>
    absurd none List.not_mem_nil
  unfold Segment.push
  split
  · split
    · split
      · exact List.forall_mem_cons.2 ⟨inEmpty, (List.forall_mem_cons.1 unbroken).2⟩
      · exact List.forall_mem_cons.2 ⟨inEmpty, unbroken⟩
    · exact List.forall_mem_cons.2 ⟨inEmpty, unbroken⟩
  · rename_i plain
    have notBreak : isBreak c = false := Bool.eq_false_iff.2 plain
    split
    · exact List.forall_mem_singleton.2 (List.forall_mem_singleton.2 notBreak)
    · obtain ⟨inFirst, inRest⟩ := List.forall_mem_cons.1 unbroken
      exact List.forall_mem_cons.2 ⟨List.forall_mem_cons.2 ⟨notBreak, inFirst⟩, inRest⟩

/-- No line holds a break. -/
theorem isBreak_of_mem_lines {text line : List Char} (member : line ∈ lines text) :
    ∀ c ∈ line, isBreak c = false := by
  have unbroken : ∀ segment ∈ segments text, ∀ c ∈ segment.body, isBreak c = false := by
    clear member
    induction text with
    | nil => exact fun _ none => absurd none List.not_mem_nil
    | cons first rest inductionHypothesis => exact Segment.unbroken_push inductionHypothesis
  obtain ⟨segment, cut, rfl⟩ := List.mem_map.1 member
  exact unbroken segment cut

end ManifestAudit.Text
