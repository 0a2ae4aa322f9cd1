import DataSchema.Error
import DataSchema.Files.Location

/-!
# DataSchema.Files.Tree

**A tree of files as a value.** It answers what a file system answers when a path is opened for
reading: the contents, or why there are none. A path is walked name by name from the root of the
tree; every name but the last must be a directory's, and a slash at the end asks for a directory
too. Around the tree nothing is known but that the directories above it exist. A path that cannot be
one at all is refused before the walk, and a name that cannot be one when the walk comes to it.
-/

namespace DataSchema

/-- Files with their contents, and the directories made for them. -/
structure FileTree where
  /-- The place and the bytes of each file. Of two files in one place the later one counts. -/
  files : List (Location × ByteArray)
  /-- The places of the directories. -/
  directories : List Location
deriving Inhabited

namespace FileTree

/-- The tree of files given by their paths. Every place on the way to a file is a directory, also
one that the path leaves again. -/
def ofList (files : List (String × ByteArray)) : FileTree where
  files := files.filterMap fun (path, bytes) =>
    (Location.route path).getLast?.map (·, bytes)
  directories := files.flatMap fun (path, _) => (Location.route path).dropLast

/-- What a path can lead to. -/
inductive Place
  /-- A file with these bytes. -/
  | file (bytes : ByteArray)
  /-- The directory at a location. -/
  | directory (location : Location)
deriving Inhabited

/-- What stands at a location. The anchors are directories. -/
def at? (t : FileTree) (l : Location) : Option Place :=
  match t.files.reverse.find? (fun f => f.1 = l) with
  | some f => some (.file f.2)
  | none => if l.names = [] ∨ l ∈ t.directories then some (.directory l) else none

/-- The most bytes that a name in a directory has. -/
def nameLimit : Nat := 255

/-- The most bytes that a path has. -/
def pathLimit : Nat := 4095

/-- One step from a place along a path. -/
def step (t : FileTree) : Place → String → Except ReadFailure Place
  | .file _, _ => .error .notDirectory
  | .directory location, name =>
    if nameLimit < name.utf8ByteSize then .error .nameTooLong
    else
      match t.at? (location.next name) with
      | some place => .ok place
      | none => .error .notFound

/-- Walk a path. -/
def walk (t : FileTree) (path : String) : Except ReadFailure Place := do
  if '\x00' ∈ path.toList then throw .nulInPath
  if path = "" then throw .notFound
  if pathLimit < path.utf8ByteSize then throw .nameTooLong
  let place ← (Location.pathNames path).foldlM t.step (.directory (Location.start path))
  match place with
  | .file _ => if path.toList.getLast? = some '/' then throw .notDirectory else return place
  | .directory _ => return place

/-- Does a path lead anywhere? -/
def exists? (t : FileTree) (path : String) : Bool :=
  match t.walk path with
  | .ok _ => true
  | .error _ => false

/-- The bytes of the file that a path leads to. -/
def read (t : FileTree) (path : String) : Except ReadFailure ByteArray := do
  match ← t.walk path with
  | .file bytes => return bytes
  | .directory _ => throw .isDirectory

end FileTree

end DataSchema
