/-!
# Hexadecimal digits

Digits are read in either case and written with small letters.
-/

namespace ManifestAudit.Text

/-- Whether a character is a digit in base sixteen, with letters of either case. -/
def isHexDigit (c : Char) : Bool :=
  c.isDigit || ('a' ≤ c && c ≤ 'f') || ('A' ≤ c && c ≤ 'F')

/-- The value of a digit in base sixteen. -/
def hexValue (c : Char) : Nat :=
  if c.isDigit then c.toNat - '0'.toNat
  else if 'a' ≤ c then c.toNat - 'a'.toNat + 10
  else c.toNat - 'A'.toNat + 10

/-- The number that digits in base sixteen spell. -/
def ofHexDigits (digits : List Char) : Nat :=
  digits.foldl (fun number digit => 16 * number + hexValue digit) 0

/-- The digits of a number in base sixteen. -/
def hexDigits (number : Nat) : List Char := Nat.toDigits 16 number

end ManifestAudit.Text
