import ManifestAudit.Audit.Engine
import ManifestAudit.Proofs.Text.Ending
import ManifestAudit.Report.Written

/-!
# The spelling of line ends

It does not matter how a text spells the ends of its lines. `rebreak` walks over a text
once, takes each break that it meets, a carriage return with a line feed as one, and
writes a given ending in its place. Neighbouring breaks neither merge nor come apart by
this: the segments of the new text are those of the old one with their endings exchanged
(`segments_rebreak`). So its lines are the same under the same numbers, and nothing that
is made of them differs.
-/

namespace ManifestAudit

namespace Text

/-- The text with each break, from left to right, in the given spelling. -/
def rebreak (ending : List Char) : List Char → List Char
  | [] => []
  | '\r' :: '\n' :: rest => ending ++ rebreak ending rest
  | c :: rest =>
    if isBreak c then ending ++ rebreak ending rest else c :: rebreak ending rest

/-- The string with each break in the given spelling. -/
def rebroken (ending : List Char) (contents : String) : String :=
  String.ofList (rebreak ending contents.toList)

/-- The segment with its ending, if it has one, in the given spelling. -/
def Segment.endedBy (ending : List Char) (segment : Segment) : Segment :=
  if segment.ending = [] then segment else ⟨segment.body, ending⟩

/-- Changing an ending keeps the line. -/
@[simp] theorem Segment.body_endedBy (ending : List Char) (segment : Segment) :
    (segment.endedBy ending).body = segment.body := by
  unfold endedBy
  split <;> rfl

/-- Whether the endings are changed before or after a character that is no break is put
in front makes no difference. -/
theorem Segment.map_endedBy_push {c : Char} (plain : isBreak c = false) (ending : List Char)
    (later : List Segment) :
    (push c later).map (endedBy ending) = push c (later.map (endedBy ending)) := by
  cases later with
  | nil =>
    have alone : push c [] = [⟨[c], []⟩] := if_neg (Bool.eq_false_iff.1 plain)
    rw [List.map_nil, alone]
    rfl
  | cons first rest =>
    rw [List.map_cons, push_of_plain plain, push_of_plain plain, List.map_cons]
    by_cases unended : first.ending = [] <;> simp [endedBy, unended]

/-- With carriage returns for all breaks, no text starts with a line feed. -/
theorem head?_rebreak_return (text : List Char) :
    (rebreak ['\r'] text).head? ≠ some '\n' := by
  fun_cases rebreak ['\r'] text with
  | case1 => simp
  | case2 rest => simp
  | case3 c rest _ breaks => simp
  | case4 c rest _ plain =>
    have noLineFeed : c ≠ '\n' := by
      rintro rfl
      exact plain (by decide)
    simpa using noLineFeed

/-- The segments of a text with other breaks are its segments with other endings. -/
theorem segments_rebreak {ending : List Char} (recognised : ending ∈ endings)
    (text : List Char) :
    segments (rebreak ending text) = (segments text).map (Segment.endedBy ending) := by
  -- What follows a rewritten break starts with no line feed if the break is a carriage
  -- return, so the two do not become a pair.
  have ended (rest : List Char) :
      segments (ending ++ rebreak ending rest) = ⟨[], ending⟩ :: segments (rebreak ending rest) :=
    segments_ending_append recognised fun isReturn => isReturn ▸ head?_rebreak_return rest
  fun_induction rebreak ending text with
  | case1 => rfl
  | case2 rest inductionHypothesis =>
    have cut : segments ('\r' :: '\n' :: rest) = ⟨[], ['\r', '\n']⟩ :: segments rest :=
      segments_ending_append List.mem_cons_self fun isReturn => by simp at isReturn
    rw [ended, cut, inductionHypothesis]
    rfl
  | case3 c rest noPair breaks inductionHypothesis =>
    have cut : segments (c :: rest) = ⟨[], [c]⟩ :: segments rest := by
      -- A carriage return in front of a line feed was the case before.
      apply segments_ending_append (singleton_mem_endings breaks)
      intro isReturn lineFeed
      obtain ⟨others, rfl⟩ := List.head?_eq_some_iff.1 lineFeed
      exact noPair others (List.singleton_inj.1 isReturn) rfl
    rw [ended, cut, inductionHypothesis]
    rfl
  | case4 c rest _ plain inductionHypothesis =>
    rw [segments_cons, segments_cons, inductionHypothesis,
      Segment.map_endedBy_push (Bool.eq_false_iff.2 plain)]

/-- The lines of a text do not depend on the spelling of its breaks. -/
theorem lines_rebreak {ending : List Char} (recognised : ending ∈ endings) (text : List Char) :
    lines (rebreak ending text) = lines text := by
  rw [lines, lines, segments_rebreak recognised, List.map_map]
  exact List.map_congr_left fun segment _ => Segment.body_endedBy ending segment

end Text

namespace Manifest

open Audit Text

/-- A manifest does not depend on the spelling of the breaks in its text. -/
theorem parse_rebroken {ending : List Char} (recognised : ending ∈ endings)
    (path contents : String) : parse path (rebroken ending contents) = parse path contents := by
  rw [parse, parse, entriesOf, entriesOf, rebroken, String.toList_ofList,
    lines_rebreak recognised]

/-- Writing every line end of a text in one of the eleven spellings changes no entry: the
names stay and so do the numbers of their lines. So the report of the built-in rules is
the same beside any supplementary manifest and under any configuration, in both forms
and with its exit code. -/
theorem newline_independent {ending : List Char} (recognised : ending ∈ endings)
    (path contents : String) :
    (parse path (rebroken ending contents)).entries = (parse path contents).entries ∧
      ∀ (config : Config) (supplementary : Manifest),
        let rewritten := builtinReport config (parse path (rebroken ending contents)) supplementary
        let original := builtinReport config (parse path contents) supplementary
        rewritten = original ∧
          rewritten.written .human = original.written .human ∧
          rewritten.written .json = original.written .json ∧
          rewritten.exitCode = original.exitCode := by
  rw [parse_rebroken recognised path contents]
  exact ⟨rfl, fun _ _ => ⟨rfl, rfl, rfl, rfl⟩⟩

/-- Line feeds, a pair, separators and a lone carriage return all become carriage
returns; the empty lines between them stay. -/
theorem newline_independent_return :
    ['\r'] ∈ endings ∧
    rebroken ['\r'] "a\n\n\r\nb\r\r\n#\u2028\x1ca\u0085" = "a\r\r\rb\r\r#\r\ra\r" ∧
    (parse "r.txt" (rebroken ['\r'] "a\n\n\r\nb\r\r\n#\u2028\x1ca\u0085")).entries =
      (parse "r.txt" "a\n\n\r\nb\r\r\n#\u2028\x1ca\u0085").entries := by
  have recognised : ['\r'] ∈ endings := by decide
  exact ⟨recognised, by decide, (newline_independent recognised "r.txt" _).1⟩

end Manifest

end ManifestAudit
