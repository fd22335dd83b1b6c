import ManifestAudit.Failure.Io

/-!
# Reading whole files

A reader answers for every path with the bytes of the file there or with the
reason why there are none. All that a run learns about files it learns through a
reader, so a statement about every reader is one about every state of the disk.
-/

namespace ManifestAudit

/-- What reading a file at a path gives. -/
abbrev Reader := String → Except IoError ByteArray

namespace Reader

/-- The reader that knows what reading some paths gave, and nothing else. -/
def ofList (known : List (String × Except IoError ByteArray)) : Reader := fun path =>
  (known.lookup path).getD (.error .noSuchFile)

/-- The text that bytes encode. -/
def decode (bytes : ByteArray) : Except IoError String :=
  match String.fromUTF8? bytes with
  | some text => .ok text
  | none => .error .notText

/-- What reading a file as text gives. -/
def text (read : Reader) (path : String) : Except IoError String :=
  match read path with
  | .error cause => .error cause
  | .ok bytes => decode bytes

end Reader

end ManifestAudit
