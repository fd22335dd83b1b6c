import ManifestAudit.Failure.Basic
import ManifestAudit.Files.Reader
import ManifestAudit.Log.Logged
import ManifestAudit.Manifest.Basic

/-!
# Loading a manifest

A manifest that is not there is no failure: it loads as a missing one. Anything
else that keeps its text from being read is a failure that names the path.
-/

namespace ManifestAudit.Manifest

/-- The manifest at a path. -/
def load (read : Reader) (path : String) : Logged (Except Failure Manifest) :=
  match read.text path with
  | .ok contents =>
    let manifest := parse path contents
    ⟨[.manifestParsed manifest.size path], .ok manifest⟩
  | .error cause =>
    if cause.isAbsence then ⟨[.manifestMissing path], .ok (missing path)⟩
    else ⟨[], .error (.manifestRead path cause)⟩

end ManifestAudit.Manifest
