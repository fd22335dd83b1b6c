/-!
# Text in styles

On a terminal a part of a text may be marked off by a style. A style starts with
sequences of its own, and one sequence sets every style back. All of them are
complete, so the sequence that sets styles back also puts an end to whatever the
part itself left open.
-/

namespace ManifestAudit.Text

/-- How a part of a text is marked off. -/
inductive Style
  /-- The word that says that something is wrong. -/
  | alarm
  /-- What is wrong. -/
  | wrong
  /-- What stands as it is typed. -/
  | literal
deriving DecidableEq, Repr

namespace Style

/-- The sequences that start a style. -/
def start : Style → String
  | alarm => "\x1b[1m\x1b[31m"
  | wrong => "\x1b[33m"
  | literal => "\x1b[1m"

/-- The sequence that sets every style back. -/
def setBack : String := "\x1b[0m"

/-- A part of a text in a style. -/
def mark (style : Style) (part : String) : String := style.start ++ part ++ setBack

/-- A part of a text in a style, between quotes that are not. -/
def quote (style : Style) (part : String) : String := "'" ++ style.mark part ++ "'"

end Style

end ManifestAudit.Text
