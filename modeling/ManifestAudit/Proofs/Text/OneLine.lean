import ManifestAudit.Manifest.Layout
import ManifestAudit.Text.Quoted
import ManifestAudit.Text.Terminal

/-!
# Texts on one line

A text is on one line if it holds no line feed. Texts that are joined are on one line if each of
them is. What is put between quotes always is, since a line feed is shown there by a letter; what
is shown in a log line is on one line only if it was before, since a line feed steers no terminal
and is kept.
-/

namespace ManifestAudit

namespace Text

/-- A text without a line feed. -/
def IsOneLine (text : String) : Prop := '\n' ∉ text.toList

instance (text : String) : Decidable (IsOneLine text) :=
  inferInstanceAs (Decidable ('\n' ∉ text.toList))

/-- Joined texts are on one line exactly if each of them is. -/
theorem isOneLine_append {left right : String} :
    IsOneLine (left ++ right) ↔ IsOneLine left ∧ IsOneLine right := by
  unfold IsOneLine
  rw [String.toList_append, List.mem_append, not_or]

/-- A text on one line between two others that are. -/
theorem IsOneLine.between {text : String} (oneLine : IsOneLine text) {front back : String}
    (inFront : IsOneLine front) (behind : IsOneLine back) : IsOneLine (front ++ text ++ back) :=
  isOneLine_append.2 ⟨isOneLine_append.2 ⟨inFront, oneLine⟩, behind⟩

/-- No digit is a line feed. -/
theorem lineFeed_not_mem_toDigits {base : Nat} (least : 1 < base) (most : base ≤ 16)
    (number : Nat) : '\n' ∉ Nat.toDigits base number := by
  have single : ∀ digit < 16, '\n' ∉ [Nat.digitChar digit] := by decide
  induction number using Nat.strongRecOn with
  | ind number inductionHypothesis =>
    by_cases small : number < base
    · rw [Nat.toDigits_of_lt_base small]
      exact single number (by omega)
    · have above : base ≤ number := Nat.le_of_not_lt small
      have less : number / base < number := Nat.div_lt_self (by omega) least
      have last : number % base < 16 := by
        have remainder := Nat.mod_lt number (by omega : 0 < base)
        omega
      rw [Nat.toDigits_of_base_le least above, List.mem_append, not_or]
      exact ⟨inductionHypothesis _ less, single _ last⟩

/-- Only a line feed is shown as one in a log line. -/
theorem eq_of_lineFeed_mem_loggedChar {c : Char} (shown : '\n' ∈ loggedChar c) : c = '\n' := by
  unfold loggedChar at shown
  split at shown
  case h_6 =>
    split at shown
    · simp [hexDigits, lineFeed_not_mem_toDigits] at shown
    · exact (List.mem_singleton.1 shown).symm
  all_goals exact absurd shown (by decide)

/-- A text on one line is on one line in a log as well. -/
theorem IsOneLine.logged {text : String} (oneLine : IsOneLine text) : IsOneLine (logged text) := by
  rw [IsOneLine, Text.logged, String.toList_ofList, List.mem_flatMap]
  rintro ⟨c, member, shown⟩
  exact oneLine (eq_of_lineFeed_mem_loggedChar shown ▸ member)

end Text

open Text

end ManifestAudit
