import ManifestAudit.Text.Blank
import ManifestAudit.Text.Hex
import ManifestAudit.Text.Invisible

/-!
# Quoted text

Quoted text shows every character: a backslash marks what would be mistaken or
not seen. The double quote and the backslash stand behind a backslash, four
controls have a letter, and any other character that leaves no mark of its own is
written as its code point.
-/

namespace ManifestAudit.Text

/-- Whether a character cannot be seen standing alone. -/
def isInvisible (c : Char) : Bool := c.toNat < 0x20 || inRanges invisibleRanges c.toNat

/-- A code point in escaped form. -/
def escapedCodePoint (c : Char) : List Char :=
  ['\\', 'u', '\x7b'] ++ hexDigits c.toNat ++ ['\x7d']

/-- How one character is shown between quotes. -/
def quotedChar (c : Char) : List Char :=
  match c with
  | '\x00' => ['\\', '0']
  | '\t' => ['\\', 't']
  | '\r' => ['\\', 'r']
  | '\n' => ['\\', 'n']
  | '\\' => ['\\', '\\']
  | '"' => ['\\', '"']
  | _ => if isInvisible c then escapedCodePoint c else [c]

/-- A text between double quotes with every character shown. -/
def quoted (text : String) : String :=
  String.ofList ('"' :: text.toList.flatMap quotedChar ++ ['"'])

end ManifestAudit.Text
