/-!
# Paths

A path is a string. A slash separates its components; a leading slash makes it
absolute. Repeated slashes, a slash at the end and a dot that is not the first
component of a relative path carry no meaning, so two spellings may stand for
the same path (`Path.same`). Printing always shows the spelling as given.
-/

namespace ManifestAudit.Path

/-- Append a relative path to a directory. One slash goes between them, unless
the directory is empty or already ends in a slash. -/
def join (directory child : String) : String :=
  if directory.isEmpty || directory.toList.getLast? = some '/' then directory ++ child
  else directory ++ "/" ++ child

/-- Whether the path starts at the root directory. -/
def isAbsolute (path : String) : Bool := path.toList.head? = some '/'

/-- The pieces between slashes that are not empty. -/
def names (path : String) : List String :=
  ((path.toList.splitOn '/').filter fun piece => !piece.isEmpty).map String.ofList

/-- What a path says once its spelling is forgotten: whether it is absolute, and
its components. A dot is a component only at the start of a relative path. -/
def components (path : String) : Bool × List String :=
  let all := names path
  let absolute := isAbsolute path
  match all with
  | [] => (absolute, [])
  | first :: rest =>
    let tail := rest.filter fun name => name ≠ "."
    (absolute, if absolute && first = "." then tail else first :: tail)

/-- Whether two spellings stand for the same path. -/
def same (left right : String) : Bool := components left = components right

end ManifestAudit.Path
