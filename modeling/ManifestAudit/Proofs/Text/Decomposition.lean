import ManifestAudit.Proofs.Text.Ending
import Mathlib.Logic.ExistsUnique

/-!
# The one way to write a text as lines

`Decomposes` says what it is to write a text as lines with their endings, without saying how
to find them: no line holds a break, every ending is one of the eleven, only the last line
may go without one and is not empty then, and no carriage return that ends a line stands in
front of a line feed.

Every text can be written so, and in one way only. For existence a character is put in front
of a text that is already written as lines; a carriage return takes the line feed of an
empty line that follows it along. For uniqueness nothing is searched: any lines and endings
that make up the text are its segments, one line at a time from the last one up.

Reading a text from its front and looking one character ahead behind a carriage return gives the
same lines (`scan_eq`): the line that was begun is always what stands in front of the text that
is left.
-/

namespace ManifestAudit.Text

/-- Lines and their endings, laid end to end, are the text. -/
inductive Decomposes : List Segment → List Char → Prop
  /-- The empty text has no line. -/
  | nil : Decomposes [] []
  /-- A last line without an ending, which is not empty. -/
  | unended {body : List Char} (nonempty : body ≠ [])
      (unbroken : ∀ c ∈ body, isBreak c = false) : Decomposes [⟨body, []⟩] body
  /-- A line with its ending in front of a text. The ending is no carriage return that the
  text would go on with a line feed. -/
  | line {body ending text : List Char} {below : List Segment}
      (unbroken : ∀ c ∈ body, isBreak c = false) (recognised : ending ∈ endings)
      (apart : ending = ['\r'] → text.head? ≠ some '\n') (rest : Decomposes below text) :
      Decomposes (⟨body, ending⟩ :: below) (body ++ (ending ++ text))

namespace Decomposes

variable {parts : List Segment} {text : List Char}

/-- A line without breaks that nothing follows is the only segment. -/
theorem segments_unended {body : List Char} (nonempty : body ≠ [])
    (unbroken : ∀ c ∈ body, isBreak c = false) : segments body = [⟨body, []⟩] := by
  induction body with
  | nil => exact absurd rfl nonempty
  | cons c rest inductionHypothesis =>
    obtain ⟨plain, inRest⟩ := List.forall_mem_cons.1 unbroken
    cases rest with
    | nil => exact if_neg (Bool.eq_false_iff.1 plain)
    | cons second others =>
      rw [segments_cons, inductionHypothesis (List.cons_ne_nil second others) inRest,
        Segment.push_of_plain plain]

/-- Lines and endings that make up a text are its segments. -/
theorem segments_eq (decomposes : Decomposes parts text) : segments text = parts := by
  induction decomposes with
  | nil => rfl
  | unended nonempty unbroken => exact segments_unended nonempty unbroken
  | line unbroken recognised apart _ inductionHypothesis =>
    rw [segments_line_append unbroken recognised apart, inductionHypothesis]

/-- An ending that starts with a line feed is the line feed. -/
theorem ending_eq_of_lineFeed {rest : List Char} (recognised : '\n' :: rest ∈ endings) :
    rest = [] := by
  rcases List.mem_cons.1 recognised with pair | single
  · exact absurd (List.cons.inj pair).1 (by decide)
  · obtain ⟨c, _, same⟩ := List.mem_map.1 single
    exact (List.cons.inj same).2.symm

/-- In front of a text that starts with a line feed stands an empty line, and what is behind
the line feed is written as lines, too. -/
theorem behind_lineFeed (decomposes : Decomposes parts ('\n' :: text)) :
    ∃ below, Decomposes below text := by
  have lineFeed : isBreak '\n' = true := by decide
  generalize whole : '\n' :: text = characters at decomposes
  cases decomposes with
  | nil => cases whole
  | unended nonempty unbroken =>
    have inLine : isBreak '\n' = false := unbroken '\n' (whole ▸ List.mem_cons_self)
    rw [lineFeed] at inLine
    cases inLine
  | @line body ending others below unbroken recognised apart rest =>
    cases body with
    | cons c inside =>
      have first : '\n' = c := (List.cons.inj whole).1
      have inLine : isBreak '\n' = false := unbroken '\n' (first ▸ List.mem_cons_self)
      rw [lineFeed] at inLine
      cases inLine
    | nil =>
      cases ending with
      | nil => exact absurd recognised (by decide)
      | cons c more =>
        obtain ⟨rfl, behind⟩ := List.cons.inj whole
        obtain rfl : more = [] := ending_eq_of_lineFeed recognised
        exact ⟨below, behind ▸ rest⟩

/-- An ending in front of a text ends an empty line. -/
theorem emptyLine {ending : List Char} (recognised : ending ∈ endings)
    (apart : ending = ['\r'] → text.head? ≠ some '\n') (decomposes : Decomposes parts text) :
    Decomposes (⟨[], ending⟩ :: parts) (ending ++ text) :=
  line (fun _ none => absurd none List.not_mem_nil) recognised apart decomposes

/-- A character in front of a text that is written as lines gives such a text again. -/
theorem exists_cons (decomposes : Decomposes parts text) (c : Char) :
    ∃ more, Decomposes more (c :: text) := by
  cases breaks : isBreak c with
  | true =>
    by_cases pair : c = '\r' ∧ text.head? = some '\n'
    · obtain ⟨rfl, starts⟩ := pair
      obtain ⟨others, rfl⟩ := List.head?_eq_some_iff.1 starts
      obtain ⟨below, rest⟩ := decomposes.behind_lineFeed
      have isPair : ['\r', '\n'] ≠ ['\r'] := by decide
      exact ⟨_, emptyLine List.mem_cons_self (fun isReturn => absurd isReturn isPair) rest⟩
    · refine ⟨_, emptyLine (singleton_mem_endings breaks) ?_ decomposes⟩
      intro isReturn starts
      exact pair ⟨List.singleton_inj.1 isReturn, starts⟩
  | false =>
    cases decomposes with
    | nil => exact ⟨_, .unended (List.cons_ne_nil c []) (List.forall_mem_singleton.2 breaks)⟩
    | unended _ unbroken =>
      exact ⟨_, .unended (List.cons_ne_nil c _) (List.forall_mem_cons.2 ⟨breaks, unbroken⟩)⟩
    | line unbroken recognised apart rest =>
      exact ⟨_, .line (List.forall_mem_cons.2 ⟨breaks, unbroken⟩) recognised apart rest⟩

end Decomposes

/-- The segments of a text make it up. -/
theorem decomposes_segments (text : List Char) : Decomposes (segments text) text := by
  have written : ∃ parts, Decomposes parts text := by
    induction text with
    | nil => exact ⟨[], .nil⟩
    | cons c rest inductionHypothesis =>
      obtain ⟨parts, decomposes⟩ := inductionHypothesis
      exact decomposes.exists_cons c
  obtain ⟨parts, decomposes⟩ := written
  rw [decomposes.segments_eq]
  exact decomposes

/-- The lines of a text behind a line that was begun, read from the front. A carriage return looks
for a line feed behind it. -/
def scanFrom (line : List Char) : List Char → List (List Char)
  | [] => if line.isEmpty then [] else [line]
  | '\r' :: '\n' :: rest => line :: scanFrom [] rest
  | c :: rest => if isBreak c then line :: scanFrom [] rest else scanFrom (line ++ [c]) rest

/-- The lines of a text, read from the front. -/
def scan (text : List Char) : List (List Char) := scanFrom [] text

/-- A line without breaks and its ending in front of a text are its first line. -/
theorem lines_line_append {body ending text : List Char}
    (unbroken : ∀ c ∈ body, isBreak c = false) (recognised : ending ∈ endings)
    (apart : ending = ['\r'] → text.head? ≠ some '\n') :
    lines (body ++ (ending ++ text)) = body :: lines text := by
  rw [lines, segments_line_append unbroken recognised apart]
  rfl

/-- Behind a line that was begun the lines are read of the line with the text behind it. -/
theorem scanFrom_eq {line text : List Char} (unbroken : ∀ c ∈ line, isBreak c = false) :
    scanFrom line text = lines (line ++ text) := by
  have empty : ∀ c ∈ ([] : List Char), isBreak c = false := fun _ none =>
    absurd none List.not_mem_nil
  fun_induction scanFrom line text with
  | case1 line nothing =>
    rw [List.isEmpty_iff.1 nothing]
    rfl
  | case2 line something =>
    have nonempty : line ≠ [] := fun nothing => something (List.isEmpty_iff.2 nothing)
    rw [List.append_nil, lines, Decomposes.segments_unended nonempty unbroken]
    rfl
  | case3 line rest inductionHypothesis =>
    have pair : ['\r', '\n'] ∈ endings := List.mem_cons_self
    rw [inductionHypothesis empty]
    exact (lines_line_append unbroken pair fun isReturn => absurd isReturn (by decide)).symm
  | case4 line c rest noPair breaks inductionHypothesis =>
    rw [inductionHypothesis empty]
    refine (lines_line_append unbroken (singleton_mem_endings breaks) fun isReturn starts => ?_).symm
    obtain ⟨behind, follows⟩ := List.head?_eq_some_iff.1 starts
    exact noPair behind (List.singleton_inj.1 isReturn) follows
  | case5 line c rest noPair plain inductionHypothesis =>
    have longer : ∀ d ∈ line ++ [c], isBreak d = false :=
      List.forall_mem_append.2 ⟨unbroken, List.forall_mem_singleton.2 (Bool.eq_false_iff.2 plain)⟩
    rw [inductionHypothesis longer, List.append_assoc, List.singleton_append]

/-- Read from the front, a text has its lines. -/
theorem scan_eq (text : List Char) : scan text = lines text :=
  scanFrom_eq fun _ none => absurd none List.not_mem_nil

/-- Every text can be written as lines and endings in exactly one way, and the lines of the
text are the lines of that way. Reading the text from the front gives them as well. Only the
empty text has none. -/
theorem lines_unique_decomposition (text : List Char) :
    (∃! parts, Decomposes parts text) ∧
      (∀ parts, Decomposes parts text → lines text = parts.map Segment.body) ∧
      (lines text = [] ↔ text = []) ∧ scan text = lines text := by
  refine ⟨⟨segments text, decomposes_segments text, ?_⟩, ?_, ?_, scan_eq text⟩
  · intro parts decomposes
    exact decomposes.segments_eq.symm
  · intro parts decomposes
    rw [lines, decomposes.segments_eq]
  · constructor
    · intro lineless
      have nothing : segments text = [] := List.map_eq_nil_iff.1 lineless
      rw [← flatten_segments text, nothing]
      rfl
    · rintro rfl
      rfl

-- Two carriage returns before a line feed, a line feed before a carriage return, and breaks
-- of one, two and three bytes between other characters.
example : lines "é\r\r\n\n\rß\u0085\u2028\x1c€".toList =
    [['é'], [], [], [], ['ß'], [], [], ['€']] := by
  decide

end ManifestAudit.Text
