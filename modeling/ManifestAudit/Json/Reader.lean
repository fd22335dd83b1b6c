import ManifestAudit.Json.Basic
import ManifestAudit.Text.Hex

/-!
# Reading JSON

A reader takes a document character by character. It knows where it stands inside
a token and where the token stands in the document: the containers that are open,
innermost first, each with what it holds so far. A character that cannot come next
ends the reading without a result. Reading is strict: only what the format allows
is accepted, and nothing but blanks may follow the value.
-/

namespace ManifestAudit.Json

/-- A token of a document. -/
inductive Token
  | scalar (value : Json)
  | text (value : List Char)
  | arrayStart
  | arrayEnd
  | objectStart
  | objectEnd
  | comma
  | colon

/-- An open container: the items of an array so far, or the fields of an object so
far and the key of the value that comes next. The last one comes first. -/
inductive Container
  | array (items : List Json)
  | object (fields : List (String × Json)) (key : String)

/-- Where the next token stands. -/
inductive Place
  /-- A value must come. -/
  | value (around : List Container)
  /-- An array was opened: an item or its end must come. -/
  | firstItem (around : List Container)
  /-- An item ended: a comma or the end of the array must come. -/
  | afterItem (items : List Json) (around : List Container)
  /-- An object was opened: a key or its end must come. -/
  | firstKey (around : List Container)
  /-- A comma in an object: a key must come. -/
  | key (fields : List (String × Json)) (around : List Container)
  /-- A key ended: a colon must come. -/
  | afterKey (fields : List (String × Json)) (key : String) (around : List Container)
  /-- A field ended: a comma or the end of the object must come. -/
  | afterField (fields : List (String × Json)) (around : List Container)
  /-- The document ended: nothing may come. -/
  | done (value : Json)

namespace Place

/-- Put a value that ended into the innermost open container. -/
def complete (ended : Json) : List Container → Place
  | [] => done ended
  | .array items :: around => afterItem (ended :: items) around
  | .object fields name :: around => afterField ((name, ended) :: fields) around

/-- Take a token where a value must come. -/
def takeValue (around : List Container) : Token → Option Place
  | .scalar ended => some (complete ended around)
  | .text characters => some (complete (.text (String.ofList characters)) around)
  | .arrayStart => some (firstItem around)
  | .objectStart => some (firstKey around)
  | _ => none

/-- Take the next token. -/
def take : Place → Token → Option Place
  | value around, token => takeValue around token
  | firstItem around, .arrayEnd => some (complete (.array []) around)
  | firstItem around, token => takeValue (.array [] :: around) token
  | afterItem items around, .comma => some (value (.array items :: around))
  | afterItem items around, .arrayEnd => some (complete (.array items.reverse) around)
  | firstKey around, .objectEnd => some (complete (.object []) around)
  | firstKey around, .text name => some (afterKey [] (String.ofList name) around)
  | key fields around, .text name => some (afterKey fields (String.ofList name) around)
  | afterKey fields name around, .colon => some (value (.object fields name :: around))
  | afterField fields around, .comma => some (key fields around)
  | afterField fields around, .objectEnd => some (complete (.object fields.reverse) around)
  | _, _ => none

end Place

/-- Where the next character stands inside a token. The characters of the token so
far are given, the last one first. -/
inductive Lexeme
  /-- Between tokens. -/
  | outside
  /-- In a number or a name. -/
  | word (characters : List Char)
  /-- In a text. -/
  | text (characters : List Char)
  /-- After a backslash in a text. -/
  | escape (characters : List Char)
  /-- In the digits of a code unit in a text; the unit may be the second half of a
  pair. -/
  | unit (characters : List Char) (high : Option Nat) (digits : List Char)
  /-- After the first half of a pair, where a backslash must come. -/
  | half (characters : List Char) (high : Nat)
  /-- After that backslash, where the letter of a code unit must come. -/
  | halfEscape (characters : List Char) (high : Nat)
deriving DecidableEq, Repr

/-- Whether a character may stand between tokens. -/
def isSpace (c : Char) : Bool := c = ' ' || c = '\t' || c = '\n' || c = '\r'

/-- Whether a character belongs to a number or a name. -/
def isWordChar (c : Char) : Bool := c.isAlphanum || c = '-' || c = '+' || c = '.'

/-- The value that a word stands for. -/
def ofWord? (word : List Char) : Option Json :=
  if word = ['n', 'u', 'l', 'l'] then some null
  else if word = ['t', 'r', 'u', 'e'] then some (bool true)
  else if word = ['f', 'a', 'l', 's', 'e'] then some (bool false)
  else if valid : Numeral.isSpelling word = true then some (number ⟨word, valid⟩)
  else none

/-- The token that a single character is. -/
def Token.ofChar? : Char → Option Token
  | '[' => some arrayStart
  | ']' => some arrayEnd
  | '\x7b' => some objectStart
  | '\x7d' => some objectEnd
  | ',' => some comma
  | ':' => some colon
  | _ => none

/-- The character that a letter after a backslash stands for. -/
def unescaped? : Char → Option Char
  | '"' => some '"'
  | '\\' => some '\\'
  | '/' => some '/'
  | 'b' => some '\x08'
  | 'f' => some '\x0c'
  | 'n' => some '\n'
  | 'r' => some '\r'
  | 't' => some '\t'
  | _ => none

/-- Whether a code unit is the first half of a pair. -/
def isHighHalf (unit : Nat) : Bool := 0xD800 ≤ unit && unit < 0xDC00

/-- Whether a code unit is the second half of a pair. -/
def isLowHalf (unit : Nat) : Bool := 0xDC00 ≤ unit && unit < 0xE000

/-- The code point of a pair. -/
def pairCode (high low : Nat) : Nat := 0x10000 + 0x400 * (high - 0xD800) + (low - 0xDC00)

/-- What a complete code unit makes of a text: another character, or the first half
of a pair. Halves that do not meet are refused. -/
def takeUnit (characters : List Char) (high : Option Nat) (unit : Nat) : Option Lexeme :=
  match high with
  | some first =>
    if isLowHalf unit then some (.text (Char.ofNat (pairCode first unit) :: characters))
    else none
  | none =>
    if isHighHalf unit then some (.half characters unit)
    else if isLowHalf unit then none
    else some (.text (Char.ofNat unit :: characters))

/-- Where a reader stands. -/
structure Reader where
  place : Place
  lexeme : Lexeme

namespace Reader

/-- The reader of a document of which nothing was read. -/
def start : Reader := ⟨.value [], .outside⟩

/-- Read a character that stands between tokens. -/
def between (place : Place) (c : Char) : Option Reader :=
  if isSpace c then some ⟨place, .outside⟩
  else if c = '"' then some ⟨place, .text []⟩
  else if isWordChar c then some ⟨place, .word [c]⟩
  else
    match Token.ofChar? c with
    | none => none
    | some token => (place.take token).map (⟨·, .outside⟩)

/-- Take the word that has ended. -/
def endWord (place : Place) (word : List Char) : Option Place :=
  match ofWord? word.reverse with
  | none => none
  | some value => place.take (.scalar value)

/-- Read a character inside a text. -/
def inText (place : Place) (characters : List Char) (c : Char) : Option Reader :=
  if c = '"' then (place.take (.text characters.reverse)).map (⟨·, .outside⟩)
  else if c = '\\' then some ⟨place, .escape characters⟩
  else if c.toNat < 0x20 then none
  else some ⟨place, .text (c :: characters)⟩

/-- Read the letter after a backslash. -/
def inEscape (place : Place) (characters : List Char) (c : Char) : Option Reader :=
  if c = 'u' then some ⟨place, .unit characters none []⟩
  else (unescaped? c).map fun meant => ⟨place, .text (meant :: characters)⟩

/-- Read a digit of a code unit, which has four. -/
def inUnit (place : Place) (characters : List Char) (high : Option Nat) (digits : List Char)
    (c : Char) : Option Reader :=
  if !Text.isHexDigit c then none
  else if digits.length < 3 then some ⟨place, .unit characters high (c :: digits)⟩
  else (takeUnit characters high (Text.ofHexDigits (c :: digits).reverse)).map (⟨place, ·⟩)

/-- Read the next character. -/
def step (reader : Reader) (c : Char) : Option Reader :=
  match reader.lexeme with
  | .outside => between reader.place c
  | .word word =>
    if isWordChar c then some ⟨reader.place, .word (c :: word)⟩
    else
      match endWord reader.place word with
      | none => none
      | some place => between place c
  | .text characters => inText reader.place characters c
  | .escape characters => inEscape reader.place characters c
  | .unit characters high digits => inUnit reader.place characters high digits c
  | .half characters high =>
    if c = '\\' then some ⟨reader.place, .halfEscape characters high⟩ else none
  | .halfEscape characters high =>
    if c = 'u' then some ⟨reader.place, .unit characters (some high) []⟩ else none

/-- Read characters one after the other. -/
def run (reader : Reader) : List Char → Option Reader
  | [] => some reader
  | c :: rest =>
    match reader.step c with
    | none => none
    | some next => next.run rest

/-- The place after the last character. -/
def finish (reader : Reader) : Option Place :=
  match reader.lexeme with
  | .outside => some reader.place
  | .word word => endWord reader.place word
  | _ => none

/-- The value of the document, if it is complete. -/
def result (reader : Reader) : Option Json :=
  match reader.finish with
  | some (.done value) => some value
  | _ => none

end Reader

/-- The value of a document. -/
def parse? (characters : List Char) : Option Json :=
  match Reader.start.run characters with
  | some reader => reader.result
  | none => none

end ManifestAudit.Json
