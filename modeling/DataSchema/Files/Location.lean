/-!
# DataSchema.Files.Location

**Places that paths lead to.** A path is a sequence of names between slashes. Followed from the
root of a tree of files, one name leads from a directory into it, `.` stays there, and `..` leads
to the directory around it, which may lie outside of the tree.
-/

namespace DataSchema

/-- A directory from which names lead down. -/
inductive Anchor
  /-- The directory so many levels above the root of the tree; at no levels it is the root. -/
  | above (levels : Nat)
  /-- The directory around all others. -/
  | top
deriving DecidableEq, Repr, Inhabited

/-- The directory around an anchor. Around the topmost there is itself. -/
def Anchor.parent : Anchor → Anchor
  | above levels => above (levels + 1)
  | top => top

/-- A place in a file system: an anchor and the names that lead down from it. -/
structure Location where
  /-- Where the names start. -/
  anchor : Anchor
  /-- The names from the anchor down. -/
  names : List String
deriving DecidableEq, Repr, Inhabited

namespace Location

/-- The directory around a place. -/
def parent (l : Location) : Location :=
  if l.names = [] then ⟨l.anchor.parent, []⟩ else ⟨l.anchor, l.names.dropLast⟩

/-- The place of a name in a directory. -/
def child (l : Location) (name : String) : Location := ⟨l.anchor, l.names ++ [name]⟩

/-- Where a name in a path leads from a directory. -/
def next (l : Location) (name : String) : Location :=
  if name = "." then l else if name = ".." then l.parent else l.child name

/-- Where a path starts: at the root of the tree, or with a slash in front at the top. -/
def start (path : String) : Location :=
  ⟨if path.toList.head? = some '/' then .top else .above 0, []⟩

/-- The names in a path. Repeated slashes count as one. -/
def pathNames (path : String) : List String :=
  ((path.toList.splitOn '/').filter (· ≠ [])).map String.ofList

/-- The places on the way along a path, from its start to its end. -/
def route (path : String) : List Location := (pathNames path).scanl next (start path)

end Location

end DataSchema
