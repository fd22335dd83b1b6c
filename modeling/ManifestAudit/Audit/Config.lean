import ManifestAudit.Audit.NameSet
import ManifestAudit.Manifest.Layout

/-!
# What an audit knows about names

The configuration says which names belong to the standard library and which
packages are heavy. The two sets may overlap. It also holds the name by which
messages call the supplementary manifest.
-/

namespace ManifestAudit

/-- Known names. -/
structure Config where
  stdlib : NameSet
  heavy : NameSet
  supplementaryName : String
deriving DecidableEq, Repr

namespace Config

/-- Names that come with the language and need no requirement. -/
def knownStdlib : List String := ["asyncio"]

/-- Packages that are too large for the primary manifest. -/
def knownHeavy : List String := ["torch", "qiskit", "cirq", "transformers"]

/-- The configuration of a run that sets nothing. -/
def standard : Config where
  stdlib := NameSet.ofList knownStdlib
  heavy := NameSet.ofList knownHeavy
  supplementaryName := Layout.supplementaryName

instance : Inhabited Config := ⟨standard⟩

/-- Whether a name belongs to the standard library. -/
def isStdlib (config : Config) (name : String) : Bool := config.stdlib.contains name

/-- Whether a package is heavy. -/
def isHeavy (config : Config) (name : String) : Bool := config.heavy.contains name

end Config

end ManifestAudit
