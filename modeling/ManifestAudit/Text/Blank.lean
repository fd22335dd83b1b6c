/-!
# Blank characters

A character is blank when the character standard gives it the property
`White_Space`. The set has twenty-five members and is wider than the one core
uses: it holds the vertical tab, the form feed, the next-line character and the
spaces of other scripts. The separators U+001C to U+001F, the zero-width space
and the byte order mark are not in it.
-/

namespace ManifestAudit.Text

/-- Inclusive ranges of code points that together hold every blank character. -/
def blankRanges : List (Nat × Nat) :=
  [(0x9, 0xD), (0x20, 0x20), (0x85, 0x85), (0xA0, 0xA0), (0x1680, 0x1680),
   (0x2000, 0x200A), (0x2028, 0x2029), (0x202F, 0x202F), (0x205F, 0x205F),
   (0x3000, 0x3000)]

/-- Whether a code point lies in one of the inclusive ranges. -/
def inRanges (ranges : List (Nat × Nat)) (codePoint : Nat) : Bool :=
  ranges.any fun (first, last) => first ≤ codePoint && codePoint ≤ last

/-- Whether a character is blank. -/
def isBlank (c : Char) : Bool := inRanges blankRanges c.toNat

/-- The text without its leading blanks. -/
def dropBlanks (text : List Char) : List Char := text.dropWhile isBlank

end ManifestAudit.Text
