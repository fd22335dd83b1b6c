import ManifestAudit.Proofs.Json.Reading

/-!
# Where a document ends

A document that starts with a bracket is complete at one position only. Behind its first
token a reader never comes back to the place where the document starts, so no number or
name can end it any more: it has a result exactly if it stands at the end of the document,
between tokens (`eq_of_result`). There it takes blanks and nothing else. A text or a word
may still begin there, but no token of it can be taken, and the reader is stuck
(`outcome_stuck`).

Hence what follows a complete document in a longer one is blank
(`isGap_of_parse?_append`). Nesting and quoting need no bookkeeping of their own: both are
in the place and the lexeme of the reader.
-/

namespace ManifestAudit.Json

namespace Place

/-- A value that has ended does not lead back to the start. -/
theorem complete_ne_start (ended : Json) (around : List Container) :
    complete ended around ≠ value [] := by
  match around with
  | [] => exact nofun
  | .array items :: others => exact nofun
  | .object fields name :: others => exact nofun

/-- No token that is or starts a value leads back to the start. -/
theorem ne_start_of_takeValue {around : List Container} {token : Token} {next : Place}
    (taken : takeValue around token = some next) : next ≠ value [] := by
  cases token with
  | scalar ended =>
    obtain rfl := Option.some.inj taken
    exact complete_ne_start ended around
  | text characters =>
    obtain rfl := Option.some.inj taken
    exact complete_ne_start (.text (String.ofList characters)) around
  | arrayStart =>
    obtain rfl := Option.some.inj taken
    exact nofun
  | objectStart =>
    obtain rfl := Option.some.inj taken
    exact nofun
  | arrayEnd | objectEnd | comma | colon => cases taken

/-- Behind an opening bracket every token but the closing one is that of an item. -/
theorem take_firstItem {around : List Container} {token : Token} (opens : token ≠ .arrayEnd) :
    (firstItem around).take token = takeValue (.array [] :: around) token := by
  cases token with
  | arrayEnd => exact absurd rfl opens
  | _ => rfl

/-- No token leads back to the start. -/
theorem ne_start_of_take {place next : Place} {token : Token}
    (taken : place.take token = some next) : next ≠ value [] := by
  cases place with
  | value around => exact ne_start_of_takeValue taken
  | firstItem around =>
    by_cases closes : token = .arrayEnd
    · subst closes
      obtain rfl := Option.some.inj taken
      exact complete_ne_start (.array []) around
    · rw [take_firstItem closes] at taken
      exact ne_start_of_takeValue taken
  | afterItem items around =>
    cases token with
    | comma =>
      obtain rfl := Option.some.inj taken
      exact nofun
    | arrayEnd =>
      obtain rfl := Option.some.inj taken
      exact complete_ne_start (.array items.reverse) around
    | _ => cases taken
  | firstKey around =>
    cases token with
    | objectEnd =>
      obtain rfl := Option.some.inj taken
      exact complete_ne_start (.object []) around
    | text name =>
      obtain rfl := Option.some.inj taken
      exact nofun
    | _ => cases taken
  | key fields around =>
    cases token with
    | text name =>
      obtain rfl := Option.some.inj taken
      exact nofun
    | _ => cases taken
  | afterKey fields name around =>
    cases token with
    | colon =>
      obtain rfl := Option.some.inj taken
      exact nofun
    | _ => cases taken
  | afterField fields around =>
    cases token with
    | comma =>
      obtain rfl := Option.some.inj taken
      exact nofun
    | objectEnd =>
      obtain rfl := Option.some.inj taken
      exact complete_ne_start (.object fields.reverse) around
    | _ => cases taken
  | done ended => cases taken

/-- Only at the start does a scalar end the document. -/
theorem eq_start_of_take_scalar {place : Place} {scalar ended : Json}
    (taken : place.take (.scalar scalar) = some (done ended)) : place = value [] := by
  cases place with
  | value around =>
    have completed : complete scalar around = done ended := Option.some.inj taken
    match around, completed with
    | [], _ => rfl
  | _ => cases taken

end Place

/-- A complete code unit does not end its text. -/
theorem takeUnit_ne_outside {characters : List Char} {high : Option Nat} {unit : Nat}
    {next : Lexeme} (taken : takeUnit characters high unit = some next) : next ≠ .outside := by
  unfold takeUnit at taken
  split at taken
  · split at taken
    · obtain rfl := Option.some.inj taken
      exact nofun
    · cases taken
  · split at taken
    · obtain rfl := Option.some.inj taken
      exact nofun
    · split at taken
      · cases taken
      · obtain rfl := Option.some.inj taken
        exact nofun

namespace Reader

/-- What one character can do to a reader. -/
inductive Moves (reader next : Reader) : Prop
  /-- The place stays, and a token that was begun is not left. -/
  | stay (place_eq : next.place = reader.place)
      (inside : next.lexeme = .outside → reader.lexeme = .outside)
  /-- A token is taken. -/
  | take {token : Token} (taken : reader.place.take token = some next.place)
  /-- A word ends in front of a token of one character, and both are taken. -/
  | takeTwo {first second : Token} {between : Place}
      (taken : reader.place.take first = some between)
      (takenNext : between.take second = some next.place)

/-- Between tokens the place stays or takes the token that the character is. -/
theorem place_of_between {place : Place} {next : Reader} {c : Char}
    (stepped : between place c = some next) :
    next.place = place ∨ ∃ token, place.take token = some next.place := by
  unfold between at stepped
  split at stepped
  · obtain rfl := Option.some.inj stepped
    exact .inl rfl
  · split at stepped
    · obtain rfl := Option.some.inj stepped
      exact .inl rfl
    · split at stepped
      · obtain rfl := Option.some.inj stepped
        exact .inl rfl
      · split at stepped
        · cases stepped
        · rename_i token _
          obtain ⟨reached, taken, rfl⟩ := Option.map_eq_some_iff.1 stepped
          exact .inr ⟨token, taken⟩

/-- A word that has ended is taken as a scalar. -/
theorem take_of_endWord {place next : Place} {word : List Char}
    (ended : endWord place word = some next) :
    ∃ scalar, place.take (.scalar scalar) = some next := by
  unfold endWord at ended
  split at ended
  · cases ended
  · rename_i scalar _
    exact ⟨scalar, ended⟩

/-- A step that begins a token or stays inside one is a move. -/
theorem Moves.of_inside {place : Place} {lexeme inside : Lexeme} {next : Reader}
    (stepped : some ⟨place, inside⟩ = some next) (begun : inside ≠ .outside) :
    Moves ⟨place, lexeme⟩ next := by
  obtain rfl := Option.some.inj stepped
  exact .stay rfl fun left => absurd left begun

/-- Every step of a reader is one of the moves. The cases are the lexemes; only the end of
a text, the end of a word and a character between tokens can take anything. -/
theorem moves_of_step {reader next : Reader} {c : Char} (stepped : reader.step c = some next) :
    Moves reader next := by
  obtain ⟨place, lexeme⟩ := reader
  cases lexeme with
  | outside =>
    rcases place_of_between stepped with same | ⟨token, taken⟩
    · exact .stay same fun _ => rfl
    · exact .take taken
  | word characters =>
    simp only [step] at stepped
    split at stepped
    · exact .of_inside stepped (by simp)
    · split at stepped
      · cases stepped
      · rename_i middle ended
        obtain ⟨scalar, taken⟩ := take_of_endWord ended
        rcases place_of_between stepped with same | ⟨token, takenNext⟩
        · exact .take (taken.trans (congrArg some same.symm))
        · exact .takeTwo taken takenNext
  | text characters =>
    simp only [step, inText] at stepped
    split at stepped
    · obtain ⟨reached, taken, rfl⟩ := Option.map_eq_some_iff.1 stepped
      exact .take taken
    · split at stepped
      · exact .of_inside stepped (by simp)
      · split at stepped
        · cases stepped
        · exact .of_inside stepped (by simp)
  | escape characters =>
    simp only [step, inEscape] at stepped
    split at stepped
    · exact .of_inside stepped (by simp)
    · obtain ⟨meant, _, rfl⟩ := Option.map_eq_some_iff.1 stepped
      exact .of_inside rfl (by simp)
  | unit characters high digits =>
    simp only [step, inUnit] at stepped
    split at stepped
    · cases stepped
    · split at stepped
      · exact .of_inside stepped (by simp)
      · obtain ⟨lexeme, complete, rfl⟩ := Option.map_eq_some_iff.1 stepped
        exact .of_inside rfl (takeUnit_ne_outside complete)
  | half characters high =>
    simp only [step] at stepped
    split at stepped
    · exact .of_inside stepped (by simp)
    · cases stepped
  | halfEscape characters high =>
    simp only [step] at stepped
    split at stepped
    · exact .of_inside stepped (by simp)
    · cases stepped

/-- A step does not lead back to the start. -/
theorem Moves.ne_start {reader next : Reader} (moves : Moves reader next)
    (begun : reader.place ≠ .value []) : next.place ≠ .value [] := by
  cases moves with
  | stay place_eq _ =>
    rw [place_eq]
    exact begun
  | take taken => exact Place.ne_start_of_take taken
  | takeTwo _ takenNext => exact Place.ne_start_of_take takenNext

/-- Behind the first token the start is not reached again. -/
theorem ne_start_of_run {reader reached : Reader} {characters : List Char}
    (begun : reader.place ≠ .value []) (read : reader.run characters = some reached) :
    reached.place ≠ .value [] := by
  induction characters generalizing reader with
  | nil =>
    obtain rfl : reader = reached := Option.some.inj read
    exact begun
  | cons c rest inductionHypothesis =>
    rw [run] at read
    cases stepped : reader.step c with
    | none =>
      rw [stepped] at read
      cases read
    | some next =>
      rw [stepped] at read
      exact inductionHypothesis ((moves_of_step stepped).ne_start begun) read

/-- A token that was begun at the end of the document stays begun: what is begun there can
neither be taken nor left. -/
theorem Moves.stuck {reader next : Reader} {ended : Json} (moves : Moves reader next)
    (atEnd : reader.place = .done ended) (begun : reader.lexeme ≠ .outside) :
    next.place = .done ended ∧ next.lexeme ≠ .outside := by
  cases moves with
  | stay place_eq inside => exact ⟨place_eq.trans atEnd, fun left => begun (inside left)⟩
  | take taken =>
    rw [atEnd] at taken
    cases taken
  | takeTwo taken _ =>
    rw [atEnd] at taken
    cases taken

/-- Behind the first token, a reader has a result exactly if it stands at the end of the
document and between tokens. -/
theorem eq_of_result {reader : Reader} {ended : Json} (begun : reader.place ≠ .value [])
    (complete : reader.result = some ended) : reader = ⟨.done ended, .outside⟩ := by
  have finished : reader.finish = some (.done ended) := by
    unfold result at complete
    split at complete
    · rename_i value finished
      rw [finished, Option.some.inj complete]
    · cases complete
  obtain ⟨place, lexeme⟩ := reader
  cases lexeme with
  | outside =>
    obtain rfl : place = .done ended := Option.some.inj finished
    rfl
  | word characters =>
    obtain ⟨scalar, taken⟩ := take_of_endWord finished
    exact absurd (Place.eq_start_of_take_scalar taken) begun
  | _ => cases finished

/-- A token that was begun at the end of the document leads to no result. -/
theorem outcome_stuck {reader : Reader} {ended : Json} (atEnd : reader.place = .done ended)
    (begun : reader.lexeme ≠ .outside) (rest : List Char) : reader.outcome rest = none := by
  induction rest generalizing reader with
  | nil =>
    have behindStart : reader.place ≠ .value [] := by
      rw [atEnd]
      exact nofun
    show reader.result = none
    cases complete : reader.result with
    | none => rfl
    | some value =>
      rw [eq_of_result behindStart complete] at begun
      exact absurd rfl begun
  | cons c others inductionHypothesis =>
    cases stepped : reader.step c with
    | none => simp only [outcome, run, stepped]
    | some next =>
      obtain ⟨stillAtEnd, stillBegun⟩ := (moves_of_step stepped).stuck atEnd begun
      rw [outcome_cons stepped]
      exact inductionHypothesis stillAtEnd stillBegun

/-- At the end of the document a character that is no blank can only begin a token. -/
theorem begun_of_between_done {ended : Json} {c : Char} {next : Reader}
    (stepped : between (.done ended) c = some next) (noSpace : isSpace c = false) :
    next.place = .done ended ∧ next.lexeme ≠ .outside := by
  unfold between at stepped
  rw [if_neg (Bool.eq_false_iff.1 noSpace)] at stepped
  split at stepped
  · obtain rfl := Option.some.inj stepped
    exact ⟨rfl, nofun⟩
  · split at stepped
    · obtain rfl := Option.some.inj stepped
      exact ⟨rfl, nofun⟩
    · split at stepped <;> cases stepped

/-- At the end of the document only blanks lead to a result. -/
theorem isGap_of_outcome_done {ended value : Json} {rest : List Char}
    (complete : outcome ⟨.done ended, .outside⟩ rest = some value) : IsGap rest := by
  induction rest with
  | nil => exact isGap_nil
  | cons c others inductionHypothesis =>
    cases space : isSpace c with
    | true =>
      have stepped : step ⟨.done ended, .outside⟩ c = some ⟨.done ended, .outside⟩ := by
        simp [step, between, space]
      rw [outcome_cons stepped] at complete
      exact List.forall_mem_cons.2 ⟨space, inductionHypothesis complete⟩
    | false =>
      cases stepped : step ⟨.done ended, .outside⟩ c with
      | none => simp [outcome, run, stepped] at complete
      | some next =>
        obtain ⟨atEnd, begun⟩ := begun_of_between_done stepped space
        rw [outcome_cons stepped, outcome_stuck atEnd begun] at complete
        cases complete

end Reader

/-- What a longer document has behind a complete one that starts with a brace is blank. -/
theorem isGap_of_parse?_append {before after : List Char} {shorter longer : Json}
    (opened : before.head? = some '\x7b') (complete : parse? before = some shorter)
    (goesOn : parse? (before ++ after) = some longer) : IsGap after := by
  obtain ⟨inside, rfl⟩ := List.head?_eq_some_iff.1 opened
  have started : Reader.start.step '\x7b' = some ⟨.firstKey [], .outside⟩ := rfl
  rw [Reader.parse?_eq_outcome, Reader.outcome_cons started] at complete
  rw [Reader.parse?_eq_outcome, List.cons_append, Reader.outcome_cons started, Reader.outcome,
    Reader.run_append] at goesOn
  cases read : Reader.run ⟨.firstKey [], .outside⟩ inside with
  | none => simp [Reader.outcome, read] at complete
  | some reached =>
    have opening : Place.firstKey [] ≠ .value [] := by simp
    have begun : reached.place ≠ .value [] := Reader.ne_start_of_run opening read
    simp only [Reader.outcome, read] at complete
    rw [read, Option.bind_some, Reader.eq_of_result begun complete] at goesOn
    exact Reader.isGap_of_outcome_done goesOn

end ManifestAudit.Json
