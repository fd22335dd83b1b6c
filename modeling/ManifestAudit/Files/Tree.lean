import ManifestAudit.Files.Reader
import ManifestAudit.Path

/-!
# File trees

A file tree holds files and directories by their position, the names on the way
down from the root. A path is followed name by name: a file on the way is an
error, and so is a name that is not there or that is longer than a name may be.
The directory where a relative path starts may have been removed; then nothing is
found in it, but its parent can still be reached.
-/

namespace ManifestAudit

/-- What is at a position. -/
inductive Node
  | file (content : ByteArray)
  | directory

/-- The names on the way down from the root. -/
abbrev Position := List String

/-- Files and directories by position. The root is always there. -/
structure FileTree where
  nodes : List (Position × Node)

namespace FileTree

/-- The tree with nothing below the root. -/
def empty : FileTree := ⟨[]⟩

instance : Inhabited FileTree := ⟨empty⟩

/-- What is at a position. -/
def at? (tree : FileTree) (position : Position) : Option Node :=
  if position.isEmpty then some .directory else tree.nodes.lookup position

/-- The longest name that a file may have, in bytes. -/
def maxName : Nat := 255

/-- The length from which on a path is too long, in bytes. -/
def maxPath : Nat := 4096

/-- Go from a position to a child. -/
def enter (tree : FileTree) (position : Position) (name : String) : Except IoError Position :=
  if (tree.at? position).isNone then .error .noSuchFile
  else if maxName < name.utf8ByteSize then .error (.system SystemError.nameTooLong)
  else if (tree.at? (position ++ [name])).isNone then .error .noSuchFile
  else .ok (position ++ [name])

/-- Follow one name of a path. -/
def follow (tree : FileTree) (position : Position) (name : String) : Except IoError Position :=
  match tree.at? position with
  | some (.file _) => .error (.system SystemError.notADirectory)
  | _ =>
    if name = "." then .ok position
    else if name = ".." then .ok position.dropLast
    else tree.enter position name

/-- Follow the names of a path from a position on. -/
def walk (tree : FileTree) (position : Position) : List String → Except IoError Position
  | [] => .ok position
  | name :: rest =>
    match tree.follow position name with
    | .error cause => .error cause
    | .ok next => tree.walk next rest

/-- The names to follow for a path. A slash at the end asks for a directory, which
a dot does too. -/
def steps (path : String) : List String :=
  if path.toList.getLast? = some '/' then Path.names path ++ ["."] else Path.names path

/-- The position where a path starts. -/
def origin (current : Position) (path : String) : Position :=
  if Path.isAbsolute path then [] else current

/-- What is at the end of a path, seen from a current directory. -/
def find (tree : FileTree) (current : Position) (path : String) : Except IoError Node :=
  if path.toList.contains '\x00' then .error .nulInName
  else if path.isEmpty then .error .noSuchFile
  else if maxPath ≤ path.utf8ByteSize then .error (.system SystemError.nameTooLong)
  else (tree.walk (origin current path) (steps path)).map fun position =>
    (tree.at? position).getD .directory

/-- Read the file at the end of a path. -/
def read (tree : FileTree) (current : Position) : Reader := fun path =>
  match tree.find current path with
  | .error cause => .error cause
  | .ok .directory => .error (.system SystemError.isADirectory)
  | .ok (.file content) => .ok content

/-- The path of a current directory, which must still be there. -/
def currentPath (tree : FileTree) (current : Position) : Except IoError String :=
  match tree.at? current with
  | some .directory => .ok ("/" ++ "/".intercalate current)
  | _ => .error .noSuchFile

/-- The position after one more name, by its spelling alone. -/
def next (position : Position) (name : String) : Position :=
  if name = "." then position
  else if name = ".." then position.dropLast
  else position ++ [name]

/-- The position of a path by its spelling alone. -/
def locate (current : Position) (path : String) : Position :=
  (Path.names path).foldl next (origin current path)

/-- The tree without what is at a position. -/
def remove (tree : FileTree) (position : Position) : FileTree :=
  ⟨tree.nodes.filter fun node => node.1 ≠ position⟩

/-- The tree without what is at a position and below it. -/
def removeAll (tree : FileTree) (position : Position) : FileTree :=
  ⟨tree.nodes.filter fun node => !position.isPrefixOf node.1⟩

/-- The tree with a node in the place of what was at its position. -/
def put (tree : FileTree) (position : Position) (node : Node) : FileTree :=
  ⟨(position, node) :: (tree.remove position).nodes⟩

/-- The tree with a directory at a position, unless something is there. -/
def makeDirectory (tree : FileTree) (position : Position) : FileTree :=
  if (tree.at? position).isSome then tree else tree.put position .directory

/-- The tree with directories wherever the names of a path lead through, from a
position on. A directory that the path leaves again is made too. -/
def makeDirectories (tree : FileTree) (position : Position) : List String → FileTree
  | [] => tree
  | name :: rest =>
    (tree.makeDirectory (next position name)).makeDirectories (next position name) rest

/-- The tree with a directory at the end of a path and those on the way to it. -/
def makePath (tree : FileTree) (current : Position) (path : String) : FileTree :=
  tree.makeDirectories (origin current path) (Path.names path)

/-- The tree with a file at the end of a path and the directories on the way to it. -/
def write (tree : FileTree) (current : Position) (path : String) (content : ByteArray) :
    FileTree :=
  (tree.makeDirectories (origin current path) (Path.names path).dropLast).put
    (locate current path) (.file content)

end FileTree

end ManifestAudit
