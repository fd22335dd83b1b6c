import ManifestAudit.Proofs.Audit.Places

/-!
# Lines that name nothing

An empty line, a comment or a constraint without a name may be put between the lines of a text
at any place. The lines below it get the next number, and that is all that shows: each entry
and each diagnostic moves with its line, also where the new line stands between the two
listings of a repeated package.

What a line below the new one becomes is told by `movedBelow` on numbers alone. So the entries
of the longer text are those of the other one under new numbers, and the report follows, since
it carries numbers and never compares them (`builtinReport_renumbered`).
-/

namespace ManifestAudit

/-- The number that a line has once another one stands behind the first `count` lines. -/
def movedBelow (count number : Nat) : Nat := if count < number then number + 1 else number

namespace Manifest

open Text

/-- The entries of lines among which another one was put that names nothing. The lines above
it keep their numbers, and those below it get the next ones. -/
theorem entriesFrom_inserted {line : List Char} (nameless : Requirement.nameIn? line = none)
    (above below : List (List Char)) :
    entriesFrom 1 (above ++ line :: below) =
      (entriesFrom 1 (above ++ below)).map (Entry.renumbered (movedBelow above.length)) := by
  have kept : (entriesFrom 1 above).map (Entry.renumbered (movedBelow above.length)) =
      entriesFrom 1 above := by
    refine map_renumbered_entriesFrom fun index bound => ?_
    exact if_neg (by omega)
  have moved : (entriesFrom (1 + above.length) below).map
      (Entry.renumbered (movedBelow above.length)) = entriesFrom (1 + above.length + 1) below := by
    refine map_renumbered_entriesFrom fun index _ => ?_
    rw [movedBelow, if_pos (by omega)]
    omega
  rw [entriesFrom_append, entriesFrom_append, entriesFrom_cons_nameless nameless, List.map_append,
    kept, moved]

/-- A text with one more line that names nothing is parsed into the manifest of the shorter
text with its entries moved. -/
theorem parse_inserted {contents extended : String} {above below : List (List Char)}
    {line : List Char} (old : lines contents.toList = above ++ below)
    (new : lines extended.toList = above ++ line :: below)
    (nameless : Requirement.nameIn? line = none) (path : String) :
    parse path extended = (parse path contents).relocated path (movedBelow above.length) := by
  rw [parse, parse, relocated, entriesOf, entriesOf, old, new, entriesFrom_inserted nameless]

end Manifest

namespace Audit

open Manifest Text

/-- A line that names nothing, put between the lines of a text at any place, moves the entries
on the lines below it by one and changes no other entry. In the report of the built-in rules,
whatever the path, the configuration and the supplementary manifest are, it moves the places
on these lines in the same way. The diagnostics are the same in the same order apart from
that, and so are the suggestions, what people read and the exit code. -/
theorem skipped_line_inert {contents extended : String} {above below : List (List Char)}
    {line : List Char} (old : lines contents.toList = above ++ below)
    (new : lines extended.toList = above ++ line :: below)
    (nameless : Requirement.packageName? (String.ofList line) = none) (path : String) :
    (parse path extended).entries =
        (parse path contents).entries.map (Entry.renumbered (movedBelow above.length)) ∧
      ∀ (config : Config) (supplementary : Manifest),
        let original := builtinReport config (parse path contents) supplementary
        let moved := builtinReport config (parse path extended) supplementary
        moved.diagnostics = original.diagnostics.map (Diagnostic.relocated fun place =>
            { place with line := movedBelow above.length place.line }) ∧
          moved.suggestions = original.suggestions ∧
          moved.written .human = original.written .human ∧
          moved.exitCode = original.exitCode := by
  have noName : Requirement.nameIn? line = none := by
    rw [Requirement.packageName?, String.toList_ofList] at nameless
    exact Option.map_eq_none_iff.1 nameless
  have parsed : parse path extended =
      (parse path contents).relocated path (movedBelow above.length) :=
    parse_inserted old new noName path
  refine ⟨congrArg Manifest.entries parsed, fun config supplementary => ?_⟩
  intro original moved
  have movedEq : moved = original.relocated fun place =>
      { place with line := movedBelow above.length place.line } := by
    rw [← builtinReport_renumbered]
    exact congrArg (builtinReport config · supplementary) parsed
  rw [movedEq]
  exact ⟨rfl, rfl, Report.written_human_relocated _ _, Report.exitCode_relocated _ _⟩

/-- A comment behind a no-break space, ended by a line separator, between the two listings of a
package. -/
theorem skipped_line_inert_comment :
    let contents := "torch\r\ntorch>=2\nflask"
    let extended := "torch\r\n\u00a0# torch\u2028torch>=2\nflask"
    let above := ["torch".toList]
    let line := "\u00a0# torch".toList
    let below := ["torch>=2".toList, "flask".toList]
    let original := builtinReport .standard (parse "r.txt" contents) (.missing "m.txt")
    let moved := builtinReport .standard (parse "r.txt" extended) (.missing "m.txt")
    lines contents.toList = above ++ below ∧ lines extended.toList = above ++ line :: below ∧
      Requirement.packageName? (String.ofList line) = none ∧
      (parse "r.txt" extended).entries = [⟨"torch", 1⟩, ⟨"torch", 3⟩, ⟨"flask", 4⟩] ∧
      (parse "r.txt" extended).entries =
        (parse "r.txt" contents).entries.map (Entry.renumbered (movedBelow 1)) ∧
      moved.diagnostics = original.diagnostics.map (Diagnostic.relocated fun place =>
        { place with line := movedBelow 1 place.line }) ∧
      moved.suggestions = original.suggestions ∧
      moved.written .human = original.written .human ∧
      moved.exitCode = original.exitCode := by
  intro contents extended above line below original moved
  have old : lines contents.toList = above ++ below := by decide
  have new : lines extended.toList = above ++ line :: below := by decide
  have nameless : Requirement.packageName? (String.ofList line) = none := by decide
  obtain ⟨entries, report⟩ := skipped_line_inert old new nameless "r.txt"
  exact ⟨old, new, nameless, by decide, entries, report .standard (.missing "m.txt")⟩

end Audit

end ManifestAudit
