/-!
# Cutting at a mark

A text is cut at the first occurrence of a mark: what stands in front of it, and
what stands after it if the mark occurs at all. The mark itself is dropped.
-/

namespace ManifestAudit.Text

/-- The parts in front of and after the first mark. -/
def cutAt (mark : Char) (text : List Char) : List Char × Option (List Char) :=
  (text.takeWhile fun c => c ≠ mark, (text.dropWhile fun c => c ≠ mark).tail?)

@[simp] theorem cutAt_nil (mark : Char) : cutAt mark [] = ([], none) := rfl

/-- A mark in front cuts there. -/
@[simp] theorem cutAt_mark (mark : Char) (rest : List Char) :
    cutAt mark (mark :: rest) = ([], some rest) := by
  simp [cutAt]

/-- Any other character in front goes to the first part. -/
theorem cutAt_cons {mark c : Char} (other : c ≠ mark) (rest : List Char) :
    cutAt mark (c :: rest) = (c :: (cutAt mark rest).1, (cutAt mark rest).2) := by
  simp [cutAt, other]

/-- A text without the mark stays in front of a mark that follows it. -/
theorem cutAt_append {mark : Char} {before : List Char} (free : mark ∉ before)
    (after : List Char) : cutAt mark (before ++ mark :: after) = (before, some after) := by
  induction before with
  | nil => exact cutAt_mark mark after
  | cons c rest inductionHypothesis =>
    have other : c ≠ mark := fun same => free (same ▸ List.mem_cons_self)
    rw [List.cons_append, cutAt_cons other,
      inductionHypothesis fun member => free (List.mem_cons_of_mem c member)]

end ManifestAudit.Text
