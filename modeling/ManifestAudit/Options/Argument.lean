import ManifestAudit.Text.Cut

/-!
# Spellings of an argument

What one argument of a command line is, judged by its spelling alone: two dashes
and a name, one dash and a letter, the two dashes that end the options, or a text
that is none of these. A single dash is a plain text.
-/

namespace ManifestAudit

/-- One argument by its spelling. -/
inductive Argument
  /-- Two dashes alone. -/
  | separator
  /-- Two dashes and a name, and the value after an equals sign if there is one. -/
  | long (name : String) (value : Option String)
  /-- One dash and a letter, and what follows the letter. -/
  | short (letter : Char) (attached : String)
  /-- Anything else. -/
  | plain (text : String)
deriving DecidableEq, Repr

namespace Argument

/-- The argument that two dashes and these characters spell. An equals sign starts
the value. -/
def longOf (characters : List Char) : Argument :=
  long (String.ofList (Text.cutAt '=' characters).1)
    ((Text.cutAt '=' characters).2.map String.ofList)

/-- The argument that these characters spell. -/
def ofList : List Char → Argument
  | ['-', '-'] => separator
  | '-' :: '-' :: rest => longOf rest
  | '-' :: letter :: rest => short letter (String.ofList rest)
  | other => plain (String.ofList other)

/-- The argument that a text spells. -/
def ofString (text : String) : Argument := ofList text.toList

/-- The value attached to a letter: one equals sign in front does not count, and
nothing at all is no value. -/
def attachedValue (attached : String) : Option String :=
  match attached.toList with
  | [] => none
  | '=' :: rest => some (String.ofList rest)
  | other => some (String.ofList other)

end Argument

end ManifestAudit
