import ManifestAudit.Proofs.Command.Verdict
import ManifestAudit.Proofs.Files.Resolution

/-!
# Manifests that are not there

A manifest is not there if its path leads nowhere. Then it loads as a missing one, with one
exception: if a file stands where the path goes on, loading fails, although nothing is at its
end. So loading fails for two reasons, something that is no text at the end of the path or a
file on the way to it, and an audit without a supplementary manifest ends with the suggestion
to split heavy packages off only if no file is in the place of a directory on the way.

All of this is said of ordinary paths, which are not too long in any of their names nor as a whole.
-/

namespace ManifestAudit

open FileTree

variable {tree : FileTree} {current : Position} {path : String}

/-- A path that leads nowhere and meets no file holds nothing. -/
theorem FileTree.holds_of_absent (ordinary : IsOrdinary path) (absent : ¬ tree.Has current path)
    (clear : ¬ tree.Blocks current path) : (tree.read current).Holds path none := by
  have missing := find_of_absent ordinary absent clear
  show tree.read current path = .error .noSuchFile
  rw [FileTree.read, missing]

/-- A path that leads to a file with a text holds this text. -/
theorem FileTree.holds_of_leads (ordinary : IsOrdinary path) {last : Position}
    (leads : tree.Leads (origin current path) (steps path) last) {contents : String}
    (file : tree.at? last = some (.file contents.toUTF8)) :
    (tree.read current).Holds path (some contents) := by
  have found := find_of_leads ordinary leads
  rw [file, Option.getD_some] at found
  show tree.read current path = .ok contents.toUTF8
  rw [FileTree.read, found]

/-- A file on the way is an obstacle. -/
theorem FileTree.obstacle?_of_blocks (ordinary : IsOrdinary path)
    (blocks : tree.Blocks current path) :
    (tree.read current).obstacle? path = some (.system SystemError.notADirectory) := by
  have unread : (tree.read current).text path = .error (.system SystemError.notADirectory) := by
    rw [Reader.text, FileTree.read, find_of_blocks ordinary blocks]
  rw [Reader.obstacle?, unread]
  exact if_neg (by decide)

namespace Manifest

/-- A path that holds nothing or a text is loaded. -/
theorem result_load_of_holds {read : Reader} {held : Option String}
    (holds : read.Holds path held) : (load read path).result = .ok (read.manifest path) := by
  rw [result_load, Reader.obstacle?_of_holds holds]

/-- What was loaded is the manifest of a path without an obstacle. -/
theorem obstacle?_of_loaded {read : Reader} {manifest : Manifest}
    (loaded : (load read path).result = .ok manifest) : read.obstacle? path = none := by
  rw [result_load] at loaded
  cases obstacle : read.obstacle? path with
  | none => rfl
  | some cause =>
    rw [obstacle] at loaded
    cases loaded

/-- A file on the way keeps a manifest from being loaded. -/
theorem result_load_of_blocks (ordinary : IsOrdinary path) (blocks : tree.Blocks current path) :
    (load (tree.read current) path).result =
      .error (.manifestRead path (.system SystemError.notADirectory)) := by
  rw [result_load, obstacle?_of_blocks ordinary blocks]

/-- Without a file on the way, a manifest that is not there is loaded as a missing one. -/
theorem result_load_of_absent (ordinary : IsOrdinary path) (absent : ¬ tree.Has current path)
    (clear : ¬ tree.Blocks current path) :
    (load (tree.read current) path).result = .ok (.missing path) := by
  have holds := holds_of_absent ordinary absent clear
  rw [result_load_of_holds holds, Reader.manifest_of_holds holds]

/-- Loading fails only at a path with a file on the way, or for something at its end that is
no text. -/
theorem blocks_or_noText_of_failed (ordinary : IsOrdinary path) {failure : Failure}
    (failed : (load (tree.read current) path).result = .error failure) :
    tree.Blocks current path ∨
      ∃ last, tree.Leads (origin current path) (steps path) last ∧
        ∀ contents : String, tree.at? last ≠ some (.file contents.toUTF8) := by
  by_cases present : tree.Has current path
  · obtain ⟨last, leads⟩ := present
    refine .inr ⟨last, leads, fun contents file => ?_⟩
    rw [result_load_of_holds (holds_of_leads ordinary leads file)] at failed
    cases failed
  · refine .inl (by_contra fun clear => ?_)
    rw [result_load_of_absent ordinary present clear] at failed
    cases failed

end Manifest

namespace Command

variable {command : Command}

/-- An audit whose supplementary manifest is not there, and no file on the way to it, ends with
the suggestion to split heavy packages off once the primary manifest is loaded. -/
theorem audit_of_absent {primary : Manifest}
    (ordinary : IsOrdinary (Layout.discover command.root).supplementary)
    (loaded : (Manifest.load (tree.read current) (Layout.discover command.root).primary).result =
      .ok primary)
    (absent : ¬ tree.Has current (Layout.discover command.root).supplementary)
    (clear : ¬ tree.Blocks current (Layout.discover command.root).supplementary) :
    ∃ report, (command.audit (tree.read current)).result = .ok report ∧
      report.suggestions = [Audit.splitSuggestion command.config] := by
  have holds := holds_of_absent ordinary absent clear
  have audited := result_audit (tree.read current) command
  simp only [auditOutcome, Manifest.obstacle?_of_loaded loaded, Reader.obstacle?_of_holds holds]
    at audited
  refine ⟨_, audited, ?_⟩
  rw [projectReport, Audit.builtinReport, Audit.suggestions_report,
    Reader.isPresent_of_holds holds]
  rfl

/-- An audit with a file on the way to the supplementary manifest fails once the primary
manifest is loaded. -/
theorem audit_of_blocks {primary : Manifest}
    (ordinary : IsOrdinary (Layout.discover command.root).supplementary)
    (loaded : (Manifest.load (tree.read current) (Layout.discover command.root).primary).result =
      .ok primary)
    (blocks : tree.Blocks current (Layout.discover command.root).supplementary) :
    (command.audit (tree.read current)).result =
      .error (.manifestRead (Layout.discover command.root).supplementary
        (.system SystemError.notADirectory)) := by
  rw [result_audit, auditOutcome]
  simp only [Manifest.obstacle?_of_loaded loaded, obstacle?_of_blocks ordinary blocks]

/-- A manifest that is not there is no failure unless a file is in the place of a directory on
the way to it. A path is ordinary if it is not empty and holds no NUL, if none of its names is
longer than 255 bytes and if the path as a whole is shorter than 4096 bytes; nothing is said about
other paths. At any ordinary path that leads nowhere, loading gives a missing manifest exactly if
the path meets no file; where it meets one, loading fails with the error of a file that is no
directory. Apart from that, loading fails only for something at the end of the path that is no
text. An audit without a supplementary manifest ends with the suggestion to split heavy packages
off, or fails at the file, provided that its primary manifest is loaded. -/
theorem absence_tolerated_iff_clear (tree : FileTree) (current : Position) :
    (∀ path, IsOrdinary path → ¬ tree.Has current path →
      ((Manifest.load (tree.read current) path).result = .ok (.missing path) ↔
        ¬ tree.Blocks current path) ∧
      ((Manifest.load (tree.read current) path).result =
          .error (.manifestRead path (.system SystemError.notADirectory)) ↔
        tree.Blocks current path)) ∧
    (∀ path failure, IsOrdinary path →
      (Manifest.load (tree.read current) path).result = .error failure →
        tree.Blocks current path ∨
          ∃ last, tree.Leads (origin current path) (steps path) last ∧
            ∀ contents : String, tree.at? last ≠ some (.file contents.toUTF8)) ∧
    ∀ (command : Command) (primary : Manifest),
      let layout := Layout.discover command.root
      (Manifest.load (tree.read current) layout.primary).result = .ok primary →
        IsOrdinary layout.supplementary → ¬ tree.Has current layout.supplementary →
          (¬ tree.Blocks current layout.supplementary →
            ∃ report, (command.audit (tree.read current)).result = .ok report ∧
              report.suggestions = [Audit.splitSuggestion command.config]) ∧
          (tree.Blocks current layout.supplementary →
            (command.audit (tree.read current)).result =
              .error (.manifestRead layout.supplementary
                (.system SystemError.notADirectory))) := by
  refine ⟨fun path ordinary absent => ⟨⟨?_, ?_⟩, ?_, ?_⟩, ?_, ?_⟩
  · intro loaded blocks
    rw [Manifest.result_load_of_blocks ordinary blocks] at loaded
    cases loaded
  · exact Manifest.result_load_of_absent ordinary absent
  · intro failed
    refine by_contra fun clear => ?_
    rw [Manifest.result_load_of_absent ordinary absent clear] at failed
    cases failed
  · exact Manifest.result_load_of_blocks ordinary
  · intro path failure ordinary failed
    exact Manifest.blocks_or_noText_of_failed ordinary failed
  · intro command primary layout loaded ordinary absent
    exact ⟨audit_of_absent ordinary loaded absent, audit_of_blocks ordinary loaded⟩

/-- A project beside the current directory, seen through their parent, has no manifests and no
tool directory: the supplementary manifest is missing and the suggestion is made. -/
theorem absence_tolerated_iff_clear_empty :
    let tree : FileTree := ⟨[(["w"], .directory), (["p"], .directory)]⟩
    let path := "../p/scripts/python-requirements-ml.txt"
    let command := Command.standard "../p" .human
    IsOrdinary path ∧ ¬ tree.Has ["w"] path ∧ ¬ tree.Blocks ["w"] path ∧
      (Manifest.load (tree.read ["w"]) path).result = .ok (.missing path) ∧
      ∃ report, (command.audit (tree.read ["w"])).result = .ok report ∧
        report.suggestions = [Audit.splitSuggestion command.config] := by
  intro tree path command
  have ordinary : IsOrdinary path := by decide
  have missing : tree.walk (origin ["w"] path) (steps path) = .error .noSuchFile := by decide
  have absent := not_has_of_walk ordinary missing
  have clear := not_blocks_of_walk ordinary missing
  have primaryOrdinary : IsOrdinary "../p/python-requirements.txt" := by decide
  have primaryMissing : tree.walk (origin ["w"] "../p/python-requirements.txt")
      (steps "../p/python-requirements.txt") = .error .noSuchFile := by decide
  have located : Layout.discover command.root = ⟨"../p/python-requirements.txt", path⟩ := by
    decide
  obtain ⟨atPath, _, audits⟩ := absence_tolerated_iff_clear tree ["w"]
  have loaded := (atPath _ primaryOrdinary (not_has_of_walk primaryOrdinary primaryMissing)).1.2
    (not_blocks_of_walk primaryOrdinary primaryMissing)
  have completed := audits command (.missing "../p/python-requirements.txt")
  simp only [located] at completed
  exact ⟨ordinary, absent, clear, (atPath path ordinary absent).1.2 clear,
    (completed loaded ordinary absent).1 clear⟩

/-- A file in the place of the tool directory: nothing is at the end of the path, and yet
neither the manifest is loaded nor the audit made. -/
theorem absent_behind_file_refused :
    let tree : FileTree := ⟨[(["scripts"], .file "".toUTF8)]⟩
    let path := "scripts/python-requirements-ml.txt"
    IsOrdinary path ∧ ¬ tree.Has [] path ∧
      (Manifest.load (tree.read []) path).result ≠ .ok (.missing path) ∧
      (Manifest.load (tree.read []) path).result = .error (.manifestRead path (.system 20)) ∧
      ((Command.standard "" .human).audit (tree.read [])).result =
        .error (.manifestRead path (.system 20)) := by
  intro tree path
  have ordinary : IsOrdinary path := by decide
  have stopped : tree.walk (origin [] path) (steps path) =
      .error (.system SystemError.notADirectory) := by decide
  have blocks := blocks_of_walk ordinary stopped
  have failed := Manifest.result_load_of_blocks ordinary blocks
  have primaryOrdinary : IsOrdinary "python-requirements.txt" := by decide
  have primaryMissing : tree.walk (origin [] "python-requirements.txt")
      (steps "python-requirements.txt") = .error .noSuchFile := by decide
  have loaded := Manifest.result_load_of_absent primaryOrdinary
    (not_has_of_walk primaryOrdinary primaryMissing)
    (not_blocks_of_walk primaryOrdinary primaryMissing)
  have located : Layout.discover (Command.standard "" .human).root =
      ⟨"python-requirements.txt", path⟩ := by decide
  have audited := @audit_of_blocks tree [] (Command.standard "" .human)
    (.missing "python-requirements.txt")
  simp only [located] at audited
  refine ⟨ordinary, not_has_of_walk ordinary stopped, ?_, failed, audited ordinary loaded blocks⟩
  rw [failed]
  nofun

end Command

end ManifestAudit
