import ManifestAudit.Json.Basic

/-!
# Writing JSON

A value is written over several lines: each item of an array and each field of an
object has a line of its own, two blanks deeper than its container, and a comma
ends each line but the last. Empty containers stay on one line. In texts, quotes,
backslashes and the characters below U+0020 are escaped and nothing else is.
-/

namespace ManifestAudit.Json

/-- How a character is written inside a text. -/
def escaped (c : Char) : List Char :=
  match c with
  | '"' => ['\\', '"']
  | '\\' => ['\\', '\\']
  | '\x08' => ['\\', 'b']
  | '\t' => ['\\', 't']
  | '\n' => ['\\', 'n']
  | '\x0c' => ['\\', 'f']
  | '\r' => ['\\', 'r']
  | _ =>
    if c.toNat < 0x20 then
      ['\\', 'u', '0', '0', Nat.digitChar (c.toNat / 16), Nat.digitChar (c.toNat % 16)]
    else [c]

/-- A text between quotes. -/
def quote (text : String) : List Char := '"' :: text.toList.flatMap escaped ++ ['"']

/-- The start of a line at a depth. -/
def newline (depth : Nat) : List Char := '\n' :: List.replicate (2 * depth) ' '

/-- Pieces in a container: one to a line, or nothing at all between the
brackets. -/
def block (opening closing : Char) (depth : Nat) : List (List Char) → List Char
  | [] => [opening, closing]
  | first :: rest =>
    opening :: newline (depth + 1) ++ first ++
      rest.flatMap (fun piece => ',' :: newline (depth + 1) ++ piece) ++
      newline depth ++ [closing]

mutual

/-- The text of a value whose container is at a depth. -/
def render (depth : Nat) : Json → List Char
  | null => ['n', 'u', 'l', 'l']
  | bool true => ['t', 'r', 'u', 'e']
  | bool false => ['f', 'a', 'l', 's', 'e']
  | number numeral => numeral.spelling
  | text value => quote value
  | array items => block '[' ']' depth (renderItems (depth + 1) items)
  | object fields => block '\x7b' '\x7d' depth (renderFields (depth + 1) fields)

/-- The texts of the items of an array. -/
def renderItems (depth : Nat) : List Json → List (List Char)
  | [] => []
  | item :: rest => render depth item :: renderItems depth rest

/-- The texts of the fields of an object. -/
def renderFields (depth : Nat) : List (String × Json) → List (List Char)
  | [] => []
  | (key, value) :: rest =>
    (quote key ++ [':', ' '] ++ render depth value) :: renderFields depth rest

end

/-- The text of a document. -/
def document (value : Json) : String := String.ofList (render 0 value)

end ManifestAudit.Json
