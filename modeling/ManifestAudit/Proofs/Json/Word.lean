import ManifestAudit.Json.Reader

/-!
# Numbers and names as words

A reader collects a number or a name character by character until one comes that
cannot belong to it. It gets the whole of a numeral in this way, since every
character of a numeral may belong to a word: digits, signs, the point and the letter
of an exponent. A numeral is none of the three names.
-/

namespace ManifestAudit.Json

/-- All characters may belong to one number or name. -/
def IsWord (word : List Char) : Prop := ∀ c ∈ word, isWordChar c = true

/-- Characters of a word followed by such characters are a word. -/
theorem IsWord.append {first second : List Char} (left : IsWord first) (right : IsWord second) :
    IsWord (first ++ second) := fun c member =>
  (List.mem_append.1 member).elim (left c) (right c)

/-- One character more in front. -/
theorem IsWord.cons {c : Char} {word : List Char} (inWord : isWordChar c = true)
    (rest : IsWord word) : IsWord (c :: word) := fun other member =>
  (List.mem_cons.1 member).elim (fun same => same ▸ inWord) (rest other)

/-- Digits are a word. -/
theorem isWord_of_digits {word : List Char} (digits : ∀ c ∈ word, c.isDigit = true) :
    IsWord word := fun c member => by
  simp [isWordChar, Char.isAlphanum, digits c member]

/-- Digits with a word behind them are a word. -/
theorem isWord_of_digitsThen {accepts : List Char → Bool} {word : List Char}
    (tail : ∀ rest, accepts rest = true → IsWord rest)
    (accepted : Numeral.digitsThen accepts word = true) : IsWord word := by
  have rest : accepts (word.dropWhile Char.isDigit) = true := by
    simp only [Numeral.digitsThen, Bool.and_eq_true] at accepted
    exact accepted.2
  have digits : IsWord (word.takeWhile Char.isDigit) :=
    isWord_of_digits (List.all_eq_true.1 List.all_takeWhile)
  have whole := digits.append (tail _ rest)
  rwa [List.takeWhile_append_dropWhile] at whole

/-- Digits that may have a sign are a word. -/
theorem isWord_of_unsigned (word : List Char)
    (accepted : Numeral.isDigits (Numeral.unsigned word) = true) : IsWord word := by
  have digits : IsWord (Numeral.unsigned word) := by
    simp only [Numeral.isDigits, Bool.and_eq_true] at accepted
    exact isWord_of_digits (List.all_eq_true.1 accepted.2)
  unfold Numeral.unsigned at digits
  split at digits
  · exact digits.cons (by decide)
  · exact digits.cons (by decide)
  · exact digits

/-- An exponent is a word. -/
theorem isWord_of_exponent (word : List Char) (accepted : Numeral.endsInExponent word = true) :
    IsWord word := by
  unfold Numeral.endsInExponent at accepted
  split at accepted
  · exact fun c member => absurd member List.not_mem_nil
  · rename_i mark rest
    simp only [Bool.and_eq_true, Bool.or_eq_true, decide_eq_true_eq] at accepted
    obtain ⟨rfl | rfl, digits⟩ := accepted
    · exact (isWord_of_unsigned rest digits).cons (by decide)
    · exact (isWord_of_unsigned rest digits).cons (by decide)

/-- What follows the whole part is a word. -/
theorem isWord_of_fraction (word : List Char) (accepted : Numeral.endsInFraction word = true) :
    IsWord word := by
  unfold Numeral.endsInFraction at accepted
  split at accepted
  · exact (isWord_of_digitsThen isWord_of_exponent accepted).cons (by decide)
  · exact isWord_of_exponent _ accepted

/-- A numeral without a sign is a word. -/
theorem isWord_of_magnitude (word : List Char) (accepted : Numeral.isMagnitude word = true) :
    IsWord word := by
  unfold Numeral.isMagnitude at accepted
  split at accepted
  · exact (isWord_of_fraction _ accepted).cons (by decide)
  · exact isWord_of_digitsThen isWord_of_fraction accepted

/-- A numeral is a word. -/
theorem isWord_spelling (numeral : Numeral) : IsWord numeral.spelling := by
  have accepted := numeral.valid
  unfold Numeral.isSpelling at accepted
  split at accepted
  · rename_i spelled
    rw [spelled]
    exact (isWord_of_magnitude _ accepted).cons (by decide)
  · exact isWord_of_magnitude _ accepted

/-- A numeral is none of the words that spell no number. -/
theorem spelling_ne {word : List Char} (invalid : Numeral.isSpelling word = false)
    (numeral : Numeral) : numeral.spelling ≠ word := by
  rintro rfl
  exact absurd (numeral.valid.symm.trans invalid) (by decide)

/-- The word of a numeral names the number. -/
theorem ofWord?_spelling (numeral : Numeral) :
    ofWord? numeral.spelling = some (.number numeral) := by
  have noNull : numeral.spelling ≠ ['n', 'u', 'l', 'l'] := spelling_ne (by decide) numeral
  have noTrue : numeral.spelling ≠ ['t', 'r', 'u', 'e'] := spelling_ne (by decide) numeral
  have noFalse : numeral.spelling ≠ ['f', 'a', 'l', 's', 'e'] := spelling_ne (by decide) numeral
  rw [ofWord?, if_neg noNull, if_neg noTrue, if_neg noFalse, dif_pos numeral.valid]

end ManifestAudit.Json
