import ManifestAudit.Proofs.Audit.Places
import ManifestAudit.Proofs.Text.Decomposition
import Mathlib.Data.List.DropRight

/-!
# Texts one behind another

A text that stops where a line stops may be read apart from what follows it: the lines of
both together are the lines of the one and those of the other (`lines_append`). One seam is
different. A carriage return at the end and a line feed behind it become a single ending, and
the empty line that the line feed ends on its own is gone.

So the entries of the second text follow those of the first, with their numbers increased by
the lines of the first, or by one less at that seam. No name is lost or changed at any seam,
since an empty line has none.
-/

namespace ManifestAudit

namespace Text

/-- A text stops where a line stops: it is empty, or its last character is a break. -/
def EndsLine (text : List Char) : Prop := ∀ c ∈ text.getLast?, isBreak c = true

instance (text : List Char) : Decidable (EndsLine text) :=
  decidable_of_iff (text.getLast?.all isBreak = true) (Option.all_eq_true isBreak text.getLast?)

/-- A carriage return and a line feed meet where two texts meet. -/
def MeetsInPair (above below : List Char) : Prop :=
  above.getLast? = some '\r' ∧ below.head? = some '\n'

instance (above below : List Char) : Decidable (MeetsInPair above below) :=
  inferInstanceAs (Decidable (above.getLast? = some '\r' ∧ below.head? = some '\n'))

/-- No pair is formed in front of a line without breaks, unless the line is empty and a line
feed follows it. -/
theorem not_meetsInPair_of_unbroken {above body others : List Char}
    (unbroken : ∀ c ∈ body, isBreak c = false) (apart : body = [] → others.head? ≠ some '\n') :
    ¬ MeetsInPair above (body ++ others) := by
  rintro ⟨_, lineFeed⟩
  cases body with
  | nil => exact apart rfl lineFeed
  | cons first rest =>
    have inBody : isBreak '\n' = false :=
      unbroken '\n' (Option.some.inj lineFeed ▸ List.mem_cons_self)
    exact absurd inBody (by decide)

/-- Behind a text that stops where a line stops, another text is cut as if it stood alone.
The induction is on the lines of the first text: what follows the last of them is the second
text, which would have to start with a line feed to be joined to it. -/
theorem Decomposes.segments_append {parts : List Segment} {above below : List Char}
    (decomposes : Decomposes parts above) (ended : EndsLine above)
    (apart : ¬ MeetsInPair above below) :
    segments (above ++ below) = parts ++ segments below := by
  induction decomposes with
  | nil => rfl
  | @unended body nonempty unbroken =>
    have breaks : isBreak (body.getLast nonempty) = true :=
      ended _ (List.getLast?_eq_getLast_of_ne_nil nonempty)
    rw [unbroken _ (List.getLast_mem nonempty)] at breaks
    cases breaks
  | @line body ending text _ unbroken recognised notJoined rest inductionHypothesis =>
    have restEnded : EndsLine text := fun c last =>
      ended c (List.mem_getLast?_append_of_mem_getLast?
        (List.mem_getLast?_append_of_mem_getLast? last))
    have restApart : ¬ MeetsInPair text below := fun ⟨last, first⟩ =>
      apart ⟨List.mem_getLast?_append_of_mem_getLast?
        (List.mem_getLast?_append_of_mem_getLast? last), first⟩
    have goesOn : ending = ['\r'] → (text ++ below).head? ≠ some '\n' := by
      rintro rfl
      cases text with
      | nil =>
        intro lineFeed
        exact apart ⟨List.mem_getLast?_append_of_mem_getLast? rfl, lineFeed⟩
      | cons first others => exact notJoined rfl
    rw [List.append_assoc, List.append_assoc, segments_line_append unbroken recognised goesOn,
      inductionHypothesis restEnded restApart, List.cons_append]

/-- The lines of two texts that meet where a line stops, and in no pair, follow one
another. -/
theorem lines_append_of_apart {above below : List Char} (ended : EndsLine above)
    (apart : ¬ MeetsInPair above below) : lines (above ++ below) = lines above ++ lines below := by
  rw [lines, (decomposes_segments above).segments_append ended apart, List.map_append]
  rfl

/-- A line with its ending adds the line to a text that stops where a line stops. -/
theorem lines_append_line {above body ending : List Char} (ended : EndsLine above)
    (unbroken : ∀ c ∈ body, isBreak c = false) (recognised : ending ∈ endings)
    (apart : ¬ MeetsInPair above (body ++ ending)) :
    lines (above ++ (body ++ ending)) = lines above ++ [body] := by
  have cut : segments (body ++ (ending ++ [])) = ⟨body, ending⟩ :: segments [] :=
    segments_line_append unbroken recognised fun _ => by simp
  rw [List.append_nil] at cut
  rw [lines_append_of_apart ended apart, lines, lines, cut]
  rfl

/-- Every text is complete lines and what stands behind the last break. -/
theorem exists_lastLine (text : List Char) :
    ∃ above body, text = above ++ body ∧ EndsLine above ∧ ∀ c ∈ body, isBreak c = false := by
  refine ⟨text.rdropWhile fun c => !isBreak c, text.rtakeWhile fun c => !isBreak c,
    List.rdropWhile_append_rtakeWhile.symm, ?_, ?_⟩
  · intro c last
    obtain ⟨nonempty, rfl⟩ := List.mem_getLast?_eq_getLast last
    simpa using List.rdropWhile_last_not (fun c => !isBreak c) text nonempty
  · intro c member
    simpa using List.mem_rtakeWhile_imp member

/-- The line feed of a pair ends no further line. -/
theorem lines_append_pair (front : List Char) :
    lines (front ++ ['\r', '\n']) = lines (front ++ ['\r']) := by
  obtain ⟨above, body, rfl, ended, unbroken⟩ := exists_lastLine front
  have apart (others : List Char) : ¬ MeetsInPair above (body ++ '\r' :: others) :=
    not_meetsInPair_of_unbroken unbroken fun _ => by simp
  rw [List.append_assoc, List.append_assoc,
    lines_append_line ended unbroken List.mem_cons_self (apart ['\n']),
    lines_append_line ended unbroken (singleton_mem_endings (by decide)) (apart [])]

/-- A line feed in front of a text ends an empty line. -/
theorem lines_lineFeed (text : List Char) : lines ('\n' :: text) = [] :: lines text :=
  congrArg (List.map Segment.body) (segments_lineFeed text)

/-- The lines of two texts, of which the first stops where a line stops, are the lines of the
one and those of the other. If a carriage return and a line feed meet, the empty first line
of the second text is not among them. -/
theorem lines_append {above : List Char} (ended : EndsLine above) (below : List Char) :
    lines (above ++ below) =
      lines above ++ if MeetsInPair above below then (lines below).tail else lines below := by
  split
  · rename_i meets
    obtain ⟨front, rfl⟩ := List.getLast?_eq_some_iff.1 meets.1
    obtain ⟨rest, rfl⟩ := List.head?_eq_some_iff.1 meets.2
    have together : front ++ ['\r'] ++ '\n' :: rest = front ++ ['\r', '\n'] ++ rest := by simp
    have pairEnded : EndsLine (front ++ ['\r', '\n']) := by
      intro c last
      rw [List.getLast?_append, List.getLast?_cons_cons] at last
      obtain rfl : '\n' = c := Option.some.inj last
      decide
    have apart : ¬ MeetsInPair (front ++ ['\r', '\n']) rest := by
      rintro ⟨last, _⟩
      simp at last
    calc lines (front ++ ['\r'] ++ '\n' :: rest)
        = lines (front ++ ['\r', '\n'] ++ rest) := by rw [together]
      _ = lines (front ++ ['\r', '\n']) ++ lines rest := lines_append_of_apart pairEnded apart
      _ = lines (front ++ ['\r']) ++ (lines ('\n' :: rest)).tail := by
        rw [lines_append_pair, lines_lineFeed, List.tail_cons]
  · rename_i apart
    exact lines_append_of_apart ended apart

/-- A text that is not empty has a line. -/
theorem lines_ne_nil {text : List Char} (nonempty : text ≠ []) : lines text ≠ [] := by
  intro lineless
  have nothing : segments text = [] := List.map_eq_nil_iff.1 lineless
  apply nonempty
  rw [← flatten_segments text, nothing, List.flatMap_nil]

/-- How many lines the first of two texts puts in front of those of the second. -/
def linesBefore (above below : List Char) : Nat :=
  if MeetsInPair above below then (lines above).length - 1 else (lines above).length

end Text

namespace Manifest

open Text

/-- The entries of two texts, of which the first stops where a line stops, are the entries of
the one and those of the other on later lines. -/
theorem entriesOf_append {above : List Char} (ended : EndsLine above) (below : List Char) :
    entriesOf (above ++ below) = entriesOf above ++
      (entriesOf below).map (Entry.renumbered (· + linesBefore above below)) := by
  rw [entriesOf, lines_append ended, entriesFrom_append, entriesOf, entriesOf, linesBefore]
  congr 1
  split
  · rename_i meets
    obtain ⟨rest, rfl⟩ := List.head?_eq_some_iff.1 meets.2
    have someLine : 0 < (lines above).length := by
      refine List.length_pos_iff.2 (lines_ne_nil ?_)
      rintro rfl
      cases meets.1
    rw [lines_lineFeed, List.tail_cons, entriesFrom_cons_nameless rfl]
    refine (map_renumbered_entriesFrom fun index _ => ?_).symm
    omega
  · refine (map_renumbered_entriesFrom fun index _ => ?_).symm
    omega

/-- One ending more at the end of a text changes no entry. It ends the last line, or, if the
last line is ended, an empty line, or it makes a pair of its ending. -/
theorem entriesOf_append_ending (text : List Char) {ending : List Char}
    (recognised : ending ∈ endings) : entriesOf (text ++ ending) = entriesOf text := by
  obtain ⟨above, body, rfl, ended, unbroken⟩ := exists_lastLine text
  have blank : entriesOf ending = [] := by
    have emptyLine : lines ([] ++ ([] ++ ending)) = lines [] ++ [[]] :=
      lines_append_line (by decide) (fun _ none => absurd none List.not_mem_nil) recognised
        fun meets => by cases meets.1
    rw [entriesOf]
    exact congrArg (entriesFrom 1) emptyLine
  cases body with
  | nil =>
    rw [List.append_nil, entriesOf_append ended, blank, List.map_nil, List.append_nil]
  | cons first rest =>
    have apart (others : List Char) : ¬ MeetsInPair above (first :: rest ++ others) :=
      not_meetsInPair_of_unbroken unbroken fun empty => absurd empty (List.cons_ne_nil first rest)
    have alone : lines (first :: rest) = [first :: rest] := by
      rw [lines, Decomposes.segments_unended (List.cons_ne_nil first rest) unbroken]
      rfl
    have unendedApart : ¬ MeetsInPair above (first :: rest) := by
      simpa using apart []
    rw [List.append_assoc, entriesOf, lines_append_line ended unbroken recognised (apart ending),
      ← alone, ← lines_append_of_apart ended unendedApart, entriesOf]

/-- Parsing takes the joining of texts at the end of a line to the joining of their entries.
If a text is empty or ends in a break, the entries of it and of another text behind it are its
own and those of the other, with every number increased by its lines, or by one less if a
carriage return and a line feed meet. The names are those of the one and those of the other.
And one ending more behind any text, whether its last line is ended or not, changes no
entry. -/
theorem parse_append (path : String) :
    (∀ above below : String, EndsLine above.toList →
      (parse path (above ++ below)).entries = (parse path above).entries ++
          (parse path below).entries.map
            (Entry.renumbered (· + linesBefore above.toList below.toList)) ∧
        (parse path (above ++ below)).names = (parse path above).names ++
          (parse path below).names) ∧
    ∀ contents : String, ∀ ending ∈ endings,
      (parse path (contents ++ String.ofList ending)).entries = (parse path contents).entries := by
  refine ⟨fun above below ended => ?_, fun contents ending recognised => ?_⟩
  · have joined : (parse path (above ++ below)).entries = (parse path above).entries ++
        (parse path below).entries.map
          (Entry.renumbered (· + linesBefore above.toList below.toList)) := by
      rw [parse, String.toList_append]
      exact entriesOf_append ended below.toList
    refine ⟨joined, ?_⟩
    rw [names, joined, List.map_append, List.map_map]
    rfl
  · rw [parse, String.toList_append, String.toList_ofList]
    exact entriesOf_append_ending contents.toList recognised

/-- A pair across the seam behind an empty line, and a line separator in its place. -/
theorem parse_append_pair :
    let above := "torch\n\r"
    let below := "\n\nflask"
    EndsLine above.toList ∧ linesBefore above.toList below.toList = 1 ∧
      (parse "r.txt" (above ++ below)).entries = [⟨"torch", 1⟩, ⟨"flask", 4⟩] ∧
      (parse "r.txt" (above ++ below)).entries = (parse "r.txt" above).entries ++
        (parse "r.txt" below).entries.map
          (Entry.renumbered (· + linesBefore above.toList below.toList)) ∧
      ['\u2028'] ∈ endings ∧
      (parse "r.txt" (above ++ String.ofList ['\u2028'])).entries =
        (parse "r.txt" above).entries := by
  intro above below
  have ended : EndsLine above.toList := by decide
  have recognised : ['\u2028'] ∈ endings := by decide
  obtain ⟨joined, terminated⟩ := parse_append "r.txt"
  exact ⟨ended, by decide, by decide, (joined above below ended).1, recognised,
    terminated above ['\u2028'] recognised⟩

end Manifest

end ManifestAudit
