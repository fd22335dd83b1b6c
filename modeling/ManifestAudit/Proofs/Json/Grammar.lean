import ManifestAudit.Json.Reader

/-!
# The grammar of JSON documents

Which characters spell which value, said without a reader and without a printer.
Blanks may stand around every item of an array, around keys and values, and around
the whole document; a text holds no quote, no backslash and no character below
U+0020 but as an escape.

Values, their items and their fields are one relation over the parts of a document,
so that a fact about all of them is proved by one induction.
-/

namespace ManifestAudit.Json

/-- Blanks between tokens. -/
def IsGap (gap : List Char) : Prop := ∀ c ∈ gap, isSpace c = true

/-- Four digits in base sixteen. -/
structure IsUnit (digits : List Char) : Prop where
  length_eq : digits.length = 4
  hexadecimal : ∀ digit ∈ digits, Text.isHexDigit digit = true

/-- What may stand between the quotes of a text, and the characters that it means. -/
inductive TextSpelling : List Char → List Char → Prop
  /-- The empty text. -/
  | nil : TextSpelling [] []
  /-- A character that stands for itself. -/
  | plain {c : Char} {written meant : List Char} (printable : 0x20 ≤ c.toNat)
      (noQuote : c ≠ '"') (noBackslash : c ≠ '\\') (rest : TextSpelling written meant) :
      TextSpelling (c :: written) (c :: meant)
  /-- A backslash and a letter. -/
  | short {letter c : Char} {written meant : List Char} (named : unescaped? letter = some c)
      (rest : TextSpelling written meant) :
      TextSpelling ('\\' :: letter :: written) (c :: meant)
  /-- A code unit that is a character. -/
  | unit {digits written meant : List Char} (four : IsUnit digits)
      (notHigh : isHighHalf (Text.ofHexDigits digits) = false)
      (notLow : isLowHalf (Text.ofHexDigits digits) = false)
      (rest : TextSpelling written meant) :
      TextSpelling ('\\' :: 'u' :: digits ++ written)
        (Char.ofNat (Text.ofHexDigits digits) :: meant)
  /-- Two code units that make a character together. -/
  | pair {high low written meant : List Char} (fourHigh : IsUnit high) (fourLow : IsUnit low)
      (isHigh : isHighHalf (Text.ofHexDigits high) = true)
      (isLow : isLowHalf (Text.ofHexDigits low) = true)
      (rest : TextSpelling written meant) :
      TextSpelling ('\\' :: 'u' :: high ++ '\\' :: 'u' :: low ++ written)
        (Char.ofNat (pairCode (Text.ofHexDigits high) (Text.ofHexDigits low)) :: meant)

/-- A part of a document. -/
inductive Part
  /-- A value. -/
  | value (value : Json)
  /-- A value with the blanks around it. -/
  | item (value : Json)
  /-- The items of an array, of which there is at least one. -/
  | items (items : List Json)
  /-- A key and its value, with the blanks around them. -/
  | field (name : String) (value : Json)
  /-- The fields of an object, of which there is at least one. -/
  | fields (fields : List (String × Json))

/-- Which characters spell a part of a document. -/
inductive Spelling : List Char → Part → Prop
  | null : Spelling ['n', 'u', 'l', 'l'] (.value .null)
  | true : Spelling ['t', 'r', 'u', 'e'] (.value (.bool true))
  | false : Spelling ['f', 'a', 'l', 's', 'e'] (.value (.bool false))
  | number (numeral : Numeral) : Spelling numeral.spelling (.value (.number numeral))
  | text {written meant : List Char} (spelled : TextSpelling written meant) :
      Spelling ('"' :: written ++ ['"']) (.value (.text (String.ofList meant)))
  | emptyArray {gap : List Char} (blank : IsGap gap) :
      Spelling ('[' :: gap ++ [']']) (.value (.array []))
  | array {inside : List Char} {items : List Json} (spelled : Spelling inside (.items items)) :
      Spelling ('[' :: inside ++ [']']) (.value (.array items))
  | emptyObject {gap : List Char} (blank : IsGap gap) :
      Spelling ('\x7b' :: gap ++ ['\x7d']) (.value (.object []))
  | object {inside : List Char} {fields : List (String × Json)}
      (spelled : Spelling inside (.fields fields)) :
      Spelling ('\x7b' :: inside ++ ['\x7d']) (.value (.object fields))
  | item {before written after : List Char} {value : Json} (blankBefore : IsGap before)
      (spelled : Spelling written (.value value)) (blankAfter : IsGap after) :
      Spelling (before ++ written ++ after) (.item value)
  | lastItem {written : List Char} {value : Json} (spelled : Spelling written (.item value)) :
      Spelling written (.items [value])
  | moreItems {written others : List Char} {value : Json} {items : List Json}
      (spelled : Spelling written (.item value)) (rest : Spelling others (.items items)) :
      Spelling (written ++ ',' :: others) (.items (value :: items))
  | field {before key meant after written : List Char} {value : Json} (blankBefore : IsGap before)
      (named : TextSpelling key meant) (blankAfter : IsGap after)
      (spelled : Spelling written (.item value)) :
      Spelling (before ++ '"' :: key ++ '"' :: after ++ ':' :: written)
        (.field (String.ofList meant) value)
  | lastField {written : List Char} {name : String} {value : Json}
      (spelled : Spelling written (.field name value)) : Spelling written (.fields [(name, value)])
  | moreFields {written others : List Char} {name : String} {value : Json}
      {fields : List (String × Json)} (spelled : Spelling written (.field name value))
      (rest : Spelling others (.fields fields)) :
      Spelling (written ++ ',' :: others) (.fields ((name, value) :: fields))

/-- The empty gap. -/
theorem isGap_nil : IsGap [] := fun _ member => absurd member List.not_mem_nil

/-- A value without blanks around it is a document. -/
theorem Spelling.document {written : List Char} {value : Json}
    (spelled : Spelling written (.value value)) : Spelling written (.item value) := by
  have padded := Spelling.item isGap_nil spelled isGap_nil
  rwa [List.nil_append, List.append_nil] at padded

end ManifestAudit.Json
