/-!
# Numerals

A number of a JSON document is kept as it is spelled, so that none of its digits is
lost: a minus sign perhaps, the whole part without needless zeros, and perhaps a
fraction and an exponent. A natural number is spelled by its decimal digits.
-/

namespace ManifestAudit

namespace Numeral

/-- At least one digit, and nothing else. -/
def isDigits (characters : List Char) : Bool := !characters.isEmpty && characters.all Char.isDigit

/-- The characters after the sign of an exponent, if it has one. -/
def unsigned : List Char → List Char
  | '+' :: rest => rest
  | '-' :: rest => rest
  | rest => rest

/-- Nothing, or an exponent. -/
def endsInExponent : List Char → Bool
  | [] => true
  | mark :: rest => (mark = 'e' || mark = 'E') && isDigits (unsigned rest)

/-- Digits, and after them what a test accepts. -/
def digitsThen (accepts : List Char → Bool) (characters : List Char) : Bool :=
  !(characters.takeWhile Char.isDigit).isEmpty && accepts (characters.dropWhile Char.isDigit)

/-- What may follow the whole part. -/
def endsInFraction : List Char → Bool
  | '.' :: rest => digitsThen endsInExponent rest
  | rest => endsInExponent rest

/-- A numeral without a sign. A zero in front is the whole part. -/
def isMagnitude : List Char → Bool
  | '0' :: rest => endsInFraction rest
  | characters => digitsThen endsInFraction characters

/-- Whether characters spell a number. -/
def isSpelling : List Char → Bool
  | '-' :: rest => isMagnitude rest
  | characters => isMagnitude characters

end Numeral

/-- A number as it is spelled. -/
structure Numeral where
  spelling : List Char
  valid : Numeral.isSpelling spelling = true
deriving DecidableEq

namespace Numeral

/-- Only zero is spelled with a zero in front. -/
theorem head?_toDigits (number : Nat) :
    (Nat.toDigits 10 number).head? = some '0' → number = 0 := by
  induction number using Nat.strongRecOn with
  | ind number inductionHypothesis =>
    by_cases small : number < 10
    · rw [Nat.toDigits_of_lt_base small]
      simp
    · have above : 10 ≤ number := Nat.le_of_not_lt small
      have leading : (Nat.toDigits 10 number).head? = (Nat.toDigits 10 (number / 10)).head? := by
        rw [Nat.toDigits_of_base_le (by decide) above, List.head?_append,
          List.head?_eq_some_head Nat.toDigits_ne_nil]
        rfl
      intro zero
      rw [leading] at zero
      have quotient := inductionHypothesis (number / 10)
        (Nat.div_lt_self (Nat.lt_of_lt_of_le (by decide) above) (by decide)) zero
      omega

/-- Decimal digits are digits. -/
theorem all_isDigit_toDigits (number : Nat) : (Nat.toDigits 10 number).all Char.isDigit = true :=
  List.all_eq_true.2 fun _ member => Nat.isDigit_of_mem_toDigits (by decide) (by decide) member

/-- Digits alone, without a zero in front, are a numeral. -/
theorem isSpelling_of_digits {characters : List Char} (digits : isDigits characters = true)
    (noZero : characters.head? = some '0' → characters = ['0']) :
    isSpelling characters = true := by
  match characters, digits, noZero with
  | first :: rest, digits, noZero =>
    have all : (first :: rest).all Char.isDigit = true := by
      simpa [isDigits] using digits
    have isDigit : first.isDigit = true := by simp_all
    have positive : first ≠ '-' := by rintro rfl; exact absurd isDigit (by decide)
    have magnitude : isMagnitude (first :: rest) = true := by
      by_cases zero : first = '0'
      · obtain rfl : rest = [] := (List.cons.inj (noZero (by simp [zero]))).2
        subst zero
        rfl
      · have everything := List.all_eq_true.1 all
        have taken : ((first :: rest) ++ []).takeWhile Char.isDigit = first :: rest :=
          (List.takeWhile_append_of_pos everything).trans (List.append_nil _)
        have dropped : ((first :: rest) ++ []).dropWhile Char.isDigit = [] :=
          List.dropWhile_append_of_pos everything
        have whole : digitsThen endsInFraction (first :: rest) = true := by
          rw [List.append_nil] at taken dropped
          rw [digitsThen, taken, dropped]
          rfl
        unfold isMagnitude
        split
        · rename_i same
          exact absurd (List.cons.inj same).1 zero
        · exact whole
    unfold isSpelling
    split
    · rename_i same
      exact absurd (List.cons.inj same).1 positive
    · exact magnitude

/-- The numeral of a natural number. -/
def ofNat (number : Nat) : Numeral where
  spelling := Nat.toDigits 10 number
  valid := isSpelling_of_digits
    (by simp [isDigits, all_isDigit_toDigits, Nat.toDigits_ne_nil])
    (fun zero => by rw [head?_toDigits number zero]; rfl)

/-- The natural number that a numeral spells by digits alone. -/
def toNat? (numeral : Numeral) : Option Nat :=
  if isDigits numeral.spelling then some (Nat.ofDigitChars 10 numeral.spelling 0) else none

/-- A natural number is read back from its numeral. -/
@[simp] theorem toNat?_ofNat (number : Nat) : (ofNat number).toNat? = some number := by
  have digits : isDigits (ofNat number).spelling = true := by
    simp [ofNat, isDigits, all_isDigit_toDigits, Nat.toDigits_ne_nil]
  rw [toNat?, if_pos digits]
  exact congrArg some Nat.ofDigitChars_ten_toDigits

end Numeral

end ManifestAudit
