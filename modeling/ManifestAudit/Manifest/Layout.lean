import ManifestAudit.Path

/-!
# Where a project keeps its manifests

The primary manifest lies in the project root. The supplementary manifest, for
heavy optional packages, lies in the tool directory below it.
-/

namespace ManifestAudit

/-- The paths of a project's two manifests. -/
structure Layout where
  primary : String
  supplementary : String
deriving DecidableEq, Repr

namespace Layout

/-- File name of the primary manifest. -/
def primaryName : String := "python-requirements.txt"

/-- File name of the supplementary manifest. -/
def supplementaryName : String := "python-requirements-ml.txt"

/-- The directory of the supplementary manifest, below the project root. -/
def toolDirectory : String := "scripts"

/-- The manifests of the project at a root. -/
def discover (root : String) : Layout where
  primary := Path.join root primaryName
  supplementary := Path.join (Path.join root toolDirectory) supplementaryName

end Layout

end ManifestAudit
