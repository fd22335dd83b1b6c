import ManifestAudit.Text.Line

/-!
# Lines and their endings

Eleven things can end a line: each of the ten break characters, and a carriage return
with a line feed behind it. A line without breaks that is put in front of a text, with
one of these endings, becomes the first segment and leaves the segments of the text as
they are (`segments_line_append`). The one exception is a carriage return in front of a
line feed, since the two would be read together.
-/

namespace ManifestAudit.Text

/-- What can end a line: a carriage return and a line feed together, or one break
character. -/
def endings : List (List Char) := ['\r', '\n'] :: breakChars.map fun c => [c]

/-- A break character on its own can end a line. -/
theorem singleton_mem_endings {c : Char} (breaks : isBreak c = true) : [c] ∈ endings :=
  List.mem_cons_of_mem _ (List.mem_map.2 ⟨c, List.contains_iff_mem.1 breaks, rfl⟩)

/-- A break that is no carriage return ends an empty line, whatever follows. -/
theorem Segment.push_of_break {c : Char} (breaks : isBreak c = true) (noReturn : c ≠ '\r')
    (later : List Segment) : push c later = ⟨[], [c]⟩ :: later := by
  unfold push
  rw [if_pos breaks]
  split
  · exact if_neg noReturn
  · rfl

/-- A character that is no break goes to the front of the first line. -/
theorem Segment.push_of_plain {c : Char} (plain : isBreak c = false) (first : Segment)
    (rest : List Segment) : push c (first :: rest) = ⟨c :: first.body, first.ending⟩ :: rest := by
  unfold push
  rw [if_neg (Bool.eq_false_iff.1 plain)]

/-- A carriage return ends an empty line on its own if no line feed follows: the segments
behind it hold all that follows, so none of them is a line feed in front. -/
theorem segments_return {text : List Char} (apart : text.head? ≠ some '\n') :
    segments ('\r' :: text) = ⟨[], ['\r']⟩ :: segments text := by
  have breaks : isBreak '\r' = true := by decide
  rw [segments_cons]
  unfold Segment.push
  rw [if_pos breaks]
  split
  · rename_i rest cut
    have whole : (segments text).flatMap Segment.chars = text := flatten_segments text
    rw [cut] at whole
    exact absurd (by rw [← whole]; rfl) apart
  · rfl

/-- A line feed ends an empty line, whatever follows. -/
theorem segments_lineFeed (text : List Char) :
    segments ('\n' :: text) = ⟨[], ['\n']⟩ :: segments text := by
  rw [segments_cons]
  exact Segment.push_of_break (by decide) (by decide) _

/-- An ending in front of a text ends an empty line. -/
theorem segments_ending_append {ending text : List Char} (recognised : ending ∈ endings)
    (apart : ending = ['\r'] → text.head? ≠ some '\n') :
    segments (ending ++ text) = ⟨[], ending⟩ :: segments text := by
  rcases List.mem_cons.1 recognised with rfl | single
  · rw [List.cons_append, List.singleton_append, segments_cons, segments_lineFeed]
    rfl
  · obtain ⟨c, member, rfl⟩ := List.mem_map.1 single
    by_cases isReturn : c = '\r'
    · subst isReturn
      exact segments_return (apart rfl)
    · exact Segment.push_of_break (List.contains_iff_mem.2 member) isReturn _

/-- A line without breaks and its ending, put in front of a text, are its first segment.
The induction is on the line, from its ending to its front. -/
theorem segments_line_append {body ending text : List Char}
    (unbroken : ∀ c ∈ body, isBreak c = false) (recognised : ending ∈ endings)
    (apart : ending = ['\r'] → text.head? ≠ some '\n') :
    segments (body ++ (ending ++ text)) = ⟨body, ending⟩ :: segments text := by
  induction body with
  | nil => exact segments_ending_append recognised apart
  | cons c rest inductionHypothesis =>
    obtain ⟨plain, inRest⟩ := List.forall_mem_cons.1 unbroken
    rw [List.cons_append, segments_cons, inductionHypothesis inRest, Segment.push_of_plain plain]

end ManifestAudit.Text
