import ManifestAudit.Proofs.Json.Grammar
import ManifestAudit.Proofs.Json.Word

/-!
# Reading accepts the grammar

Every spelling of a document is read, and it is read as the value that it spells. A
reader in the middle of a document is described by what it makes of the rest: after
the characters of a part it stands where the part is complete, whatever the open
containers are and whatever comes next. A number has no last character of its own,
so what comes next must not go on with it.

Inside a text a reader accepts no character below U+0020.
-/

namespace ManifestAudit.Json

namespace Reader

/-- What a reader makes of the rest of a document. -/
def outcome (reader : Reader) (rest : List Char) : Option Json :=
  match reader.run rest with
  | some reached => reached.result
  | none => none

/-- A document is what a reader at its start makes of it. -/
theorem parse?_eq_outcome (characters : List Char) :
    parse? characters = start.outcome characters := rfl

/-- A step that succeeds hands the rest to the reader after it. -/
theorem outcome_cons {reader next : Reader} {c : Char} (stepped : reader.step c = some next)
    (rest : List Char) : reader.outcome (c :: rest) = next.outcome rest := by
  simp only [outcome, run, stepped]

variable {place : Place}

/-- Blanks between tokens change nothing. -/
theorem outcome_gap {gap : List Char} (blank : IsGap gap) (rest : List Char) :
    outcome ⟨place, .outside⟩ (gap ++ rest) = outcome ⟨place, .outside⟩ rest := by
  induction gap with
  | nil => rfl
  | cons c others inductionHypothesis =>
    have space : isSpace c = true := blank c List.mem_cons_self
    have stepped : step ⟨place, .outside⟩ c = some ⟨place, .outside⟩ := by
      simp [step, between, space]
    rw [List.cons_append, outcome_cons stepped]
    exact inductionHypothesis fun other member => blank other (List.mem_cons_of_mem c member)

/-- A token of one character starts nothing else. -/
theorem ofChar?_apart {c : Char} {token : Token} (single : Token.ofChar? c = some token) :
    isSpace c = false ∧ c ≠ '"' ∧ isWordChar c = false := by
  unfold Token.ofChar? at single
  split at single
  case h_7 => exact absurd single (by simp)
  all_goals decide

/-- A token of one character moves the place. -/
theorem outcome_token (token : Token) {next : Place} {c : Char}
    (single : Token.ofChar? c = some token) (taken : place.take token = some next)
    (rest : List Char) :
    outcome ⟨place, .outside⟩ (c :: rest) = outcome ⟨next, .outside⟩ rest := by
  obtain ⟨noSpace, noQuote, noWord⟩ := ofChar?_apart single
  have stepped : step ⟨place, .outside⟩ c = some ⟨next, .outside⟩ := by
    simp [step, between, noSpace, noQuote, noWord, single, taken]
  exact outcome_cons stepped rest

/-- A quote opens a text. -/
theorem outcome_quote (rest : List Char) :
    outcome ⟨place, .outside⟩ ('"' :: rest) = outcome ⟨place, .text []⟩ rest :=
  outcome_cons rfl rest

/-- A quote ends a text, which is then taken as a token. -/
theorem outcome_endText {next : Place} {characters : List Char}
    (taken : place.take (.text characters.reverse) = some next) (rest : List Char) :
    outcome ⟨place, .text characters⟩ ('"' :: rest) = outcome ⟨next, .outside⟩ rest := by
  have stepped : step ⟨place, .text characters⟩ '"' = some ⟨next, .outside⟩ := by
    simp [step, inText, taken]
  exact outcome_cons stepped rest

/-- Four digits make a code unit, which is taken when the last one is read. -/
theorem outcome_unit {characters digits : List Char} {high : Option Nat} {next : Lexeme}
    (four : IsUnit digits)
    (taken : takeUnit characters high (Text.ofHexDigits digits) = some next) (rest : List Char) :
    outcome ⟨place, .unit characters high []⟩ (digits ++ rest) = outcome ⟨place, next⟩ rest := by
  obtain ⟨length, hexadecimal⟩ := four
  match digits, length with
  | [first, second, third, fourth], _ =>
    simp only [List.forall_mem_cons] at hexadecimal
    obtain ⟨hexFirst, hexSecond, hexThird, hexFourth, _⟩ := hexadecimal
    have one : step ⟨place, .unit characters high []⟩ first =
        some ⟨place, .unit characters high [first]⟩ := by
      simp [step, inUnit, hexFirst]
    have two : step ⟨place, .unit characters high [first]⟩ second =
        some ⟨place, .unit characters high [second, first]⟩ := by
      simp [step, inUnit, hexSecond]
    have three : step ⟨place, .unit characters high [second, first]⟩ third =
        some ⟨place, .unit characters high [third, second, first]⟩ := by
      simp [step, inUnit, hexThird]
    have last : step ⟨place, .unit characters high [third, second, first]⟩ fourth =
        some ⟨place, next⟩ := by
      simp [step, inUnit, hexFourth, taken]
    simp only [List.cons_append, List.nil_append]
    rw [outcome_cons one, outcome_cons two, outcome_cons three, outcome_cons last]

/-- What stands between the quotes of a text adds the characters that it means. -/
theorem outcome_text {written meant : List Char} (spelled : TextSpelling written meant)
    (characters rest : List Char) :
    outcome ⟨place, .text characters⟩ (written ++ rest) =
      outcome ⟨place, .text (meant.reverse ++ characters)⟩ rest := by
  induction spelled generalizing characters with
  | nil => rfl
  | @plain c written meant printable noQuote noBackslash _ inductionHypothesis =>
    have stepped : step ⟨place, .text characters⟩ c = some ⟨place, .text (c :: characters)⟩ := by
      simp [step, inText, noQuote, noBackslash, Nat.not_lt.2 printable]
    rw [List.cons_append, outcome_cons stepped, inductionHypothesis]
    simp
  | @short letter c written meant named _ inductionHypothesis =>
    have notUnit : letter ≠ 'u' := by
      rintro rfl
      have noLetter : unescaped? 'u' = none := rfl
      exact absurd (noLetter.symm.trans named) (by simp)
    have opened : step ⟨place, .text characters⟩ '\\' = some ⟨place, .escape characters⟩ := rfl
    have stepped : step ⟨place, .escape characters⟩ letter =
        some ⟨place, .text (c :: characters)⟩ := by
      simp [step, inEscape, notUnit, named]
    rw [List.cons_append, List.cons_append, outcome_cons opened, outcome_cons stepped,
      inductionHypothesis]
    simp
  | @unit digits written meant four notHigh notLow _ inductionHypothesis =>
    have opened : step ⟨place, .text characters⟩ '\\' = some ⟨place, .escape characters⟩ := rfl
    have started : step ⟨place, .escape characters⟩ 'u' =
        some ⟨place, .unit characters none []⟩ := rfl
    have taken : takeUnit characters none (Text.ofHexDigits digits) =
        some (.text (Char.ofNat (Text.ofHexDigits digits) :: characters)) := by
      simp [takeUnit, notHigh, notLow]
    rw [List.cons_append, List.cons_append, List.cons_append, List.cons_append,
      List.append_assoc, outcome_cons opened, outcome_cons started, outcome_unit four taken,
      inductionHypothesis]
    simp
  | @pair high low written meant fourHigh fourLow isHigh isLow _ inductionHypothesis =>
    have opened : step ⟨place, .text characters⟩ '\\' = some ⟨place, .escape characters⟩ := rfl
    have started : step ⟨place, .escape characters⟩ 'u' =
        some ⟨place, .unit characters none []⟩ := rfl
    have takenHigh : takeUnit characters none (Text.ofHexDigits high) =
        some (.half characters (Text.ofHexDigits high)) := by
      simp [takeUnit, isHigh]
    have openedAgain : step ⟨place, .half characters (Text.ofHexDigits high)⟩ '\\' =
        some ⟨place, .halfEscape characters (Text.ofHexDigits high)⟩ := rfl
    have startedAgain : step ⟨place, .halfEscape characters (Text.ofHexDigits high)⟩ 'u' =
        some ⟨place, .unit characters (some (Text.ofHexDigits high)) []⟩ := rfl
    have takenLow : takeUnit characters (some (Text.ofHexDigits high)) (Text.ofHexDigits low) =
        some (.text (Char.ofNat (pairCode (Text.ofHexDigits high) (Text.ofHexDigits low)) ::
          characters)) := by
      simp [takeUnit, isLow]
    simp only [List.cons_append, List.append_assoc]
    rw [outcome_cons opened, outcome_cons started, outcome_unit fourHigh takenHigh,
      outcome_cons openedAgain, outcome_cons startedAgain, outcome_unit fourLow takenLow,
      inductionHypothesis]
    simp

/-- What comes next does not go on with a number or a name. -/
def Bounded (rest : List Char) : Prop := ∀ c, rest.head? = some c → isWordChar c = false

/-- Nothing goes on with nothing. -/
theorem bounded_nil : Bounded [] := fun _ first => absurd first (by simp)

/-- A character that belongs to no word bounds what is in front of it. -/
theorem bounded_cons {c : Char} (apart : isWordChar c = false) (rest : List Char) :
    Bounded (c :: rest) := by
  intro other first
  obtain rfl : c = other := Option.some.inj first
  exact apart

/-- A blank belongs to no word. -/
theorem isWordChar_of_isSpace {c : Char} (space : isSpace c = true) : isWordChar c = false := by
  simp only [isSpace, Bool.or_eq_true, decide_eq_true_eq] at space
  rcases space with ((rfl | rfl) | rfl) | rfl <;> decide

/-- Blanks in front of a bounded rest keep it bounded. -/
theorem bounded_gap {gap rest : List Char} (blank : IsGap gap) (bounded : Bounded rest) :
    Bounded (gap ++ rest) := by
  cases gap with
  | nil => exact bounded
  | cons c others =>
    have space : isSpace c = true := blank c List.mem_cons_self
    exact bounded_cons (isWordChar_of_isSpace space) (others ++ rest)

/-- A word goes on as long as its characters come. -/
theorem outcome_word {word : List Char} (together : IsWord word) (characters rest : List Char) :
    outcome ⟨place, .word characters⟩ (word ++ rest) =
      outcome ⟨place, .word (word.reverse ++ characters)⟩ rest := by
  induction word generalizing characters with
  | nil => rfl
  | cons c others inductionHypothesis =>
    have inWord : isWordChar c = true := together c List.mem_cons_self
    have stepped : step ⟨place, .word characters⟩ c = some ⟨place, .word (c :: characters)⟩ := by
      simp [step, inWord]
    rw [List.cons_append, outcome_cons stepped,
      inductionHypothesis fun other member => together other (List.mem_cons_of_mem c member)]
    simp

/-- A word that has ended is taken as the scalar that it names, at the end of the
document as well as in front of another character. -/
theorem outcome_endWord {next : Place} {characters rest : List Char} {value : Json}
    (bounded : Bounded rest) (named : ofWord? characters.reverse = some value)
    (taken : place.take (.scalar value) = some next) :
    outcome ⟨place, .word characters⟩ rest = outcome ⟨next, .outside⟩ rest := by
  have ended : endWord place characters = some next := by simp [endWord, named, taken]
  cases rest with
  | nil => simp [outcome, run, result, finish, ended]
  | cons c others =>
    have apart : isWordChar c = false := bounded c rfl
    have same : step ⟨place, .word characters⟩ c = step ⟨next, .outside⟩ c := by
      simp [step, apart, ended]
    simp only [outcome, run, same]

/-- A word that names a scalar is read as that scalar. -/
theorem outcome_scalar {next : Place} {word rest : List Char} {value : Json}
    (together : IsWord word) (named : ofWord? word = some value) (bounded : Bounded rest)
    (taken : place.take (.scalar value) = some next) :
    outcome ⟨place, .outside⟩ (word ++ rest) = outcome ⟨next, .outside⟩ rest := by
  cases word with
  | nil =>
    have nameless : ofWord? [] = none := rfl
    exact absurd (nameless.symm.trans named) (by simp)
  | cons c others =>
    have inWord : isWordChar c = true := together c List.mem_cons_self
    have noSpace : isSpace c = false := by
      cases space : isSpace c with
      | false => rfl
      | true => exact absurd (isWordChar_of_isSpace space) (by simp [inWord])
    have noQuote : c ≠ '"' := by
      rintro rfl
      exact absurd inWord (by decide)
    have stepped : step ⟨place, .outside⟩ c = some ⟨place, .word [c]⟩ := by
      simp [step, between, noSpace, noQuote, inWord]
    have othersTogether : IsWord others := fun other member =>
      together other (List.mem_cons_of_mem c member)
    rw [List.cons_append, outcome_cons stepped, outcome_word othersTogether]
    exact outcome_endWord bounded (by simpa using named) taken

end Reader

namespace Place

/-- A value may come, and it goes into the given containers. -/
def Awaits (place : Place) (around : List Container) : Prop :=
  ∀ next token, takeValue around token = some next → place.take token = some next

/-- A key may come, and it goes behind the given fields. -/
def AwaitsKey (place : Place) (fields : List (String × Json)) (around : List Container) : Prop :=
  ∀ name, place.take (.text name) = some (.afterKey fields (String.ofList name) around)

/-- A place for a value awaits one. -/
theorem awaits_value (around : List Container) : (value around).Awaits around :=
  fun _ _ taken => taken

/-- The first item of an array may come where the array may end. -/
theorem awaits_firstItem (around : List Container) :
    (firstItem around).Awaits (.array [] :: around) := by
  intro next token taken
  cases token with
  | arrayEnd => exact absurd taken (by simp [takeValue])
  | _ => exact taken

end Place

open Json.Reader Json.Place

/-- What reading the characters of a part comes to, wherever the part may stand. -/
def Part.IsRead (written : List Char) : Part → Prop
  | .value ended | .item ended =>
    ∀ place around rest, Awaits place around → Bounded rest →
      outcome ⟨place, .outside⟩ (written ++ rest) =
        outcome ⟨complete ended around, .outside⟩ rest
  | .items others =>
    ∀ place items around rest, Awaits place (.array items :: around) →
      outcome ⟨place, .outside⟩ (written ++ ']' :: rest) =
        outcome ⟨complete (.array (items.reverse ++ others)) around, .outside⟩ rest
  | .field name ended =>
    ∀ place fields around rest, AwaitsKey place fields around → Bounded rest →
      outcome ⟨place, .outside⟩ (written ++ rest) =
        outcome ⟨.afterField ((name, ended) :: fields) around, .outside⟩ rest
  | .fields others =>
    ∀ place fields around rest, AwaitsKey place fields around →
      outcome ⟨place, .outside⟩ (written ++ '\x7d' :: rest) =
        outcome ⟨complete (.object (fields.reverse ++ others)) around, .outside⟩ rest

/-- A word is read as the scalar that it names. -/
theorem isRead_scalar {word : List Char} {ended : Json} (together : IsWord word)
    (named : ofWord? word = some ended) : Part.IsRead word (.value ended) :=
  fun _ _ _ awaits bounded =>
    outcome_scalar together named bounded (awaits _ (.scalar ended) rfl)

/-- Every part that the grammar spells is read. Values and items end where their
container goes on; the items of an array and the fields of an object are read up to
the end of their container. -/
theorem isRead_of_spelling {written : List Char} {part : Part} (spelled : Spelling written part) :
    part.IsRead written := by
  induction spelled with
  | null => exact isRead_scalar (List.all_eq_true.1 rfl) rfl
  | true => exact isRead_scalar (List.all_eq_true.1 rfl) rfl
  | false => exact isRead_scalar (List.all_eq_true.1 rfl) rfl
  | number numeral => exact isRead_scalar (isWord_spelling numeral) (ofWord?_spelling numeral)
  | @text written meant spelled =>
    intro place around rest awaits _
    have taken : place.take (.text (meant.reverse ++ []).reverse) =
        some (complete (.text (String.ofList meant)) around) := by
      rw [List.append_nil, List.reverse_reverse]
      exact awaits _ (.text meant) rfl
    simp only [List.cons_append, List.append_assoc, List.nil_append]
    rw [outcome_quote, outcome_text spelled, outcome_endText taken]
  | @emptyArray gap blank =>
    intro place around rest awaits _
    simp only [List.cons_append, List.append_assoc, List.nil_append]
    rw [outcome_token .arrayStart rfl (awaits _ _ rfl), outcome_gap blank,
      outcome_token .arrayEnd rfl rfl]
  | @array inside items _ inductionHypothesis =>
    intro place around rest awaits _
    simp only [List.cons_append, List.append_assoc, List.nil_append]
    rw [outcome_token .arrayStart rfl (awaits _ _ rfl),
      inductionHypothesis _ [] around rest (awaits_firstItem around)]
    rfl
  | @emptyObject gap blank =>
    intro place around rest awaits _
    simp only [List.cons_append, List.append_assoc, List.nil_append]
    rw [outcome_token .objectStart rfl (awaits _ _ rfl), outcome_gap blank,
      outcome_token .objectEnd rfl rfl]
  | @object inside fields _ inductionHypothesis =>
    intro place around rest awaits _
    simp only [List.cons_append, List.append_assoc, List.nil_append]
    rw [outcome_token .objectStart rfl (awaits _ _ rfl),
      inductionHypothesis (.firstKey around) [] around rest fun _ => rfl]
    rfl
  | @item before written after ended blankBefore _ blankAfter inductionHypothesis =>
    intro place around rest awaits bounded
    rw [List.append_assoc, List.append_assoc, outcome_gap blankBefore,
      inductionHypothesis place around _ awaits (bounded_gap blankAfter bounded),
      outcome_gap blankAfter]
  | @lastItem written ended _ inductionHypothesis =>
    intro place items around rest awaits
    rw [inductionHypothesis place _ _ awaits (bounded_cons (by decide) rest), complete,
      outcome_token .arrayEnd rfl rfl, List.reverse_cons]
  | @moreItems written others ended items _ _ readItem readOthers =>
    intro place before around rest awaits
    rw [List.append_assoc, List.cons_append,
      readItem place _ _ awaits (bounded_cons (by decide) _), complete,
      outcome_token .comma rfl rfl,
      readOthers _ (ended :: before) around rest (awaits_value _)]
    simp
  | @field before key meant after written ended blankBefore named blankAfter _
      inductionHypothesis =>
    intro place fields around rest awaits bounded
    have taken : place.take (.text (meant.reverse ++ []).reverse) =
        some (.afterKey fields (String.ofList meant) around) := by
      rw [List.append_nil, List.reverse_reverse]
      exact awaits meant
    simp only [List.cons_append, List.append_assoc]
    rw [outcome_gap blankBefore, outcome_quote, outcome_text named, outcome_endText taken,
      outcome_gap blankAfter, outcome_token .colon rfl rfl,
      inductionHypothesis _ _ rest (awaits_value _) bounded]
    rfl
  | @lastField written name ended _ inductionHypothesis =>
    intro place fields around rest awaits
    rw [inductionHypothesis place fields around _ awaits (bounded_cons (by decide) rest),
      outcome_token .objectEnd rfl rfl, List.reverse_cons]
  | @moreFields written others name ended fields _ _ readField readOthers =>
    intro place before around rest awaits
    rw [List.append_assoc, List.cons_append,
      readField place before around _ awaits (bounded_cons (by decide) _),
      outcome_token .comma rfl rfl,
      readOthers (.key ((name, ended) :: before) around) ((name, ended) :: before) around rest
        fun _ => rfl]
    simp

/-- A spelling of a document is read as the value that it spells. -/
theorem parse?_of_spelling {written : List Char} {ended : Json}
    (spelled : Spelling written (.item ended)) : parse? written = some ended := by
  have read : outcome start (written ++ []) = outcome ⟨complete ended [], .outside⟩ [] :=
    isRead_of_spelling spelled (.value []) [] [] (awaits_value []) bounded_nil
  rw [List.append_nil] at read
  rw [parse?_eq_outcome, read]
  rfl

/-- Whether the next character stands between the quotes of a text. -/
def Lexeme.isInText : Lexeme → Bool
  | outside | word _ => false
  | _ => true

/-- A letter that may stand after a backslash is not below U+0020. -/
theorem printable_of_unescaped? {letter c : Char} (named : unescaped? letter = some c) :
    0x20 ≤ letter.toNat := by
  unfold unescaped? at named
  split at named
  case h_9 => exact absurd named (by simp)
  all_goals decide

/-- A digit in base sixteen is not below U+0020. -/
theorem printable_of_isHexDigit {digit : Char} (hexadecimal : Text.isHexDigit digit = true) :
    0x20 ≤ digit.toNat := by
  simp only [Text.isHexDigit, Char.isDigit, Bool.or_eq_true, Bool.and_eq_true, decide_eq_true_eq,
    Char.le_def, UInt32.le_iff_toNat_le] at hexadecimal
  have code : digit.val.toNat = digit.toNat := rfl
  have bounds : '0'.val.toNat = 48 ∧ 'a'.val.toNat = 97 ∧ 'A'.val.toNat = 65 := ⟨rfl, rfl, rfl⟩
  omega

/-- A character that is accepted between the quotes of a text is not below U+0020. -/
theorem Reader.printable_of_step {reader next : Reader} {c : Char}
    (inside : reader.lexeme.isInText = true) (stepped : reader.step c = some next) :
    0x20 ≤ c.toNat := by
  obtain ⟨place, lexeme⟩ := reader
  cases lexeme with
  | outside => exact absurd inside (by simp [Lexeme.isInText])
  | word characters => exact absurd inside (by simp [Lexeme.isInText])
  | text characters =>
    rcases Nat.lt_or_ge c.toNat 0x20 with low | printable
    · have noQuote : c ≠ '"' := by rintro rfl; exact absurd low (by decide)
      have noBackslash : c ≠ '\\' := by rintro rfl; exact absurd low (by decide)
      exact absurd stepped (by simp [step, inText, noQuote, noBackslash, low])
    · exact printable
  | escape characters =>
    by_cases unit : c = 'u'
    · subst unit
      decide
    · have named : ∃ meant, unescaped? c = some meant := by
        simp only [step, inEscape, unit, if_false, Option.map_eq_some_iff] at stepped
        exact stepped.imp fun _ found => found.1
      exact printable_of_unescaped? named.choose_spec
  | unit characters high digits =>
    cases hexadecimal : Text.isHexDigit c with
    | true => exact printable_of_isHexDigit hexadecimal
    | false => exact absurd stepped (by simp [step, inUnit, hexadecimal])
  | half characters high =>
    by_cases backslash : c = '\\'
    · subst backslash
      decide
    · exact absurd stepped (by simp [step, backslash])
  | halfEscape characters high =>
    by_cases unit : c = 'u'
    · subst unit
      decide
    · exact absurd stepped (by simp [step, unit])

/-- Reading two parts of a document is reading the first and going on from there. -/
theorem Reader.run_append (reader : Reader) (before after : List Char) :
    reader.run (before ++ after) = (reader.run before).bind fun reached => reached.run after := by
  induction before generalizing reader with
  | nil => rfl
  | cons c rest inductionHypothesis =>
    rw [List.cons_append, run, run]
    cases reader.step c with
    | none => rfl
    | some next => exact inductionHypothesis next

/-- No text of a document that is read holds a character below U+0020 as it is. -/
theorem printable_of_parse? {before after : List Char} {c : Char} {ended : Json}
    (read : parse? (before ++ c :: after) = some ended) {reader : Reader}
    (reached : Reader.start.run before = some reader)
    (inside : reader.lexeme.isInText = true) : 0x20 ≤ c.toNat := by
  have goesOn : ∃ next, reader.step c = some next := by
    rw [parse?, Reader.run_append, reached, Option.bind_some, Reader.run] at read
    cases stepped : reader.step c with
    | none => exact absurd read (by simp [stepped])
    | some next => exact ⟨next, rfl⟩
  obtain ⟨next, stepped⟩ := goesOn
  exact Reader.printable_of_step inside stepped

end ManifestAudit.Json
