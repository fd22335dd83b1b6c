import ManifestAudit.Json.Printer
import ManifestAudit.Proofs.Json.Grammar

/-!
# Writing follows the grammar

What is written for a value spells that value, at any depth. A character of a text is
written as itself, as a short escape or as a code unit, each of which means the
character; the lines of a container differ from its items by blanks and commas only.
-/

namespace ManifestAudit.Json

/-- Digits in base sixteen are written for the two halves of a number below 256. -/
theorem isUnit_low {code : Nat} (low : code < 0x20) :
    IsUnit ['0', '0', Nat.digitChar (code / 16), Nat.digitChar (code % 16)] := by
  have digits : ∀ digit < 16, Text.isHexDigit (Nat.digitChar digit) = true := by decide
  have high := digits (code / 16) (by omega)
  have rest := digits (code % 16) (by omega)
  exact ⟨rfl, by simp [high, rest]; decide⟩

/-- The code unit of a character below U+0020 spells its number. -/
theorem ofHexDigits_low {code : Nat} (low : code < 0x20) :
    Text.ofHexDigits ['0', '0', Nat.digitChar (code / 16), Nat.digitChar (code % 16)] = code := by
  have all : ∀ code < 0x20, Text.ofHexDigits
      ['0', '0', Nat.digitChar (code / 16), Nat.digitChar (code % 16)] = code := by decide
  exact all code low

/-- What is written for a character means that character. -/
theorem textSpelling_escaped (c : Char) {written meant : List Char}
    (rest : TextSpelling written meant) : TextSpelling (escaped c ++ written) (c :: meant) := by
  unfold escaped
  split
  case h_8 noQuote noBackslash _ _ _ _ _ =>
    split
    · rename_i low
      have code := ofHexDigits_low low
      have notHigh : isHighHalf c.toNat = false := by
        simp only [isHighHalf, Bool.and_eq_false_iff, decide_eq_false_iff_not]
        omega
      have notLow : isLowHalf c.toNat = false := by
        simp only [isLowHalf, Bool.and_eq_false_iff, decide_eq_false_iff_not]
        omega
      rw [← code] at notHigh notLow
      have spelled := TextSpelling.unit (isUnit_low low) notHigh notLow rest
      rwa [code, Char.ofNat_toNat] at spelled
    · rename_i printable
      exact .plain (Nat.le_of_not_lt printable) noQuote noBackslash rest
  all_goals exact .short rfl rest

/-- What is written between the quotes of a text means the text. -/
theorem textSpelling_flatMap_escaped (characters : List Char) :
    TextSpelling (characters.flatMap escaped) characters := by
  induction characters with
  | nil => exact .nil
  | cons c rest inductionHypothesis => exact textSpelling_escaped c inductionHypothesis

/-- A text between quotes spells the text. -/
theorem spelling_quote (text : String) : Spelling (quote text) (.value (.text text)) := by
  have spelled := Spelling.text (textSpelling_flatMap_escaped text.toList)
  rwa [String.ofList_toList] at spelled

/-- The start of a line holds blanks only. -/
theorem isGap_newline (depth : Nat) : IsGap (newline depth) := by
  intro c member
  rcases List.mem_cons.1 member with rfl | blank
  · decide
  · obtain ⟨_, rfl⟩ := List.mem_replicate.1 blank
    decide

/-- The items of an array, each on a line of its own, spell the items. -/
theorem spelling_items (depth outer : Nat) (first : Json) (rest : List Json)
    (spelled : ∀ item ∈ first :: rest, Spelling (render depth item) (.value item)) :
    Spelling (newline depth ++ render depth first ++
      (renderItems depth rest).flatMap (fun piece => ',' :: newline depth ++ piece) ++
      newline outer) (.items (first :: rest)) := by
  induction rest generalizing first with
  | nil =>
    have item := Spelling.item (isGap_newline depth) (spelled first List.mem_cons_self)
      (isGap_newline outer)
    simpa [renderItems] using Spelling.lastItem item
  | cons second others inductionHypothesis =>
    have item := Spelling.item (isGap_newline depth) (spelled first List.mem_cons_self) isGap_nil
    have items := inductionHypothesis second fun other member =>
      spelled other (List.mem_cons_of_mem first member)
    simpa [renderItems] using Spelling.moreItems item items

/-- A key and a value on a line spell the field. -/
theorem spelling_field (depth : Nat) {written after : List Char} (key : String) (value : Json)
    (spelled : Spelling written (.value value)) (blankAfter : IsGap after) :
    Spelling (newline depth ++ (quote key ++ [':', ' '] ++ written) ++ after)
      (.field key value) := by
  have blank : IsGap [' '] := fun c member => by
    rw [List.mem_singleton.1 member]
    decide
  have field := Spelling.field (isGap_newline depth) (textSpelling_flatMap_escaped key.toList)
    isGap_nil (Spelling.item blank spelled blankAfter)
  rw [String.ofList_toList] at field
  simpa [quote] using field

/-- The fields of an object, each on a line of its own, spell the fields. -/
theorem spelling_fields (depth outer : Nat) (key : String) (value : Json)
    (rest : List (String × Json))
    (spelled : ∀ field ∈ (key, value) :: rest,
      Spelling (render depth field.2) (.value field.2)) :
    Spelling (newline depth ++ (quote key ++ [':', ' '] ++ render depth value) ++
      (renderFields depth rest).flatMap (fun piece => ',' :: newline depth ++ piece) ++
      newline outer) (.fields ((key, value) :: rest)) := by
  induction rest generalizing key value with
  | nil =>
    have field := spelling_field depth key value (spelled (key, value) List.mem_cons_self)
      (isGap_newline outer)
    simpa [renderFields] using Spelling.lastField field
  | cons second others inductionHypothesis =>
    obtain ⟨nextKey, nextValue⟩ := second
    have field := spelling_field depth key value (spelled (key, value) List.mem_cons_self) isGap_nil
    have fields := inductionHypothesis nextKey nextValue fun other member =>
      spelled other (List.mem_cons_of_mem (key, value) member)
    simpa [renderFields] using Spelling.moreFields field fields

mutual

/-- What is written for a value spells the value. -/
theorem spelling_render (depth : Nat) : (value : Json) →
    Spelling (render depth value) (.value value)
  | .null => .null
  | .bool true => .true
  | .bool false => .false
  | .number numeral => .number numeral
  | .text value => spelling_quote value
  | .array [] => .emptyArray isGap_nil
  | .array (first :: rest) => by
    have items := spelling_items (depth + 1) depth first rest
      (spelling_renderItems (depth + 1) (first :: rest))
    simpa [render, renderItems, block] using Spelling.array items
  | .object [] => .emptyObject isGap_nil
  | .object ((key, value) :: rest) => by
    have fields := spelling_fields (depth + 1) depth key value rest
      (spelling_renderFields (depth + 1) ((key, value) :: rest))
    simpa [render, renderFields, block] using Spelling.object fields

/-- What is written for each item of an array spells the item. -/
theorem spelling_renderItems (depth : Nat) : (items : List Json) →
    ∀ item ∈ items, Spelling (render depth item) (.value item)
  | [] => fun _ member => absurd member List.not_mem_nil
  | first :: rest =>
    List.forall_mem_cons.2 ⟨spelling_render depth first, spelling_renderItems depth rest⟩

/-- What is written for the value of each field of an object spells the value. -/
theorem spelling_renderFields (depth : Nat) : (fields : List (String × Json)) →
    ∀ field ∈ fields, Spelling (render depth field.2) (.value field.2)
  | [] => fun _ member => absurd member List.not_mem_nil
  | (_, value) :: rest =>
    List.forall_mem_cons.2 ⟨spelling_render depth value, spelling_renderFields depth rest⟩

end

/-- The text of a document spells its value. -/
theorem spelling_document (value : Json) : Spelling value.document.toList (.value value) := by
  rw [document, String.toList_ofList]
  exact spelling_render 0 value

end ManifestAudit.Json
